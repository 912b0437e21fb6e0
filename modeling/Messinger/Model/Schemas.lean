/-
This file models the values that `JSON.parse` returns and the schemas of the WebSocket messages.
-/
import Messinger.Model.ConversationCalls

namespace Messinger
open ConversationService

/-- A number carries its value when that is a whole one. -/
inductive Json where
  | null
  | bool (value : Bool)
  | number (whole : Option Int)
  | string (value : CodeUnits)
  | array (items : List Json)
  | object (fields : List (CodeUnits × Json))

/-- A literal of the source is in ASCII, so each letter is one code unit. -/
def units (literal : String) : CodeUnits := literal.toList.map fun letter => UInt16.ofNat letter.toNat

def textOf (value : CodeUnits) : Text := (scalars value).map Char.ofNat

def fieldOf (name : String) (fields : List (CodeUnits × Json)) : Option Json :=
  (fields.find? fun field => field.1 == units name).map Prod.snd

/-- Reading a property of null or undefined throws, and any other value may lack the property. -/
def property (name : String) : Option Json → Except Exception (Option Json)
  | none => .error .typeError
  | some .null => .error .typeError
  | some (.object fields) => .ok (fieldOf name fields)
  | some _ => .ok none

/-- The schemas of zod accept a value and return what the handler uses of it. -/
def zObject : Option Json → Option (List (CodeUnits × Json))
  | some (.object fields) => some fields
  | _ => none

def zString (least most : Nat) : Option Json → Option CodeUnits
  | some (.string value) => if least ≤ value.length ∧ value.length ≤ most then some value else none
  | _ => none

def zUuid : Option Json → Option Text
  | some (.string value) => if isUuid (textOf value) then some (textOf value) else none
  | _ => none

/-- An integer of zod is a safe integer. -/
def zPositiveInt : Option Json → Option Nat
  | some (.number (some value)) => if 0 < value ∧ value ≤ 9007199254740991 then some value.toNat else none
  | _ => none

def zMessageStatus : Option Json → Option MessageStatus
  | some (.string value) =>
      if value = units "SENT" then some .sent
      else if value = units "DELIVERED" then some .delivered
      else if value = units "READ" then some .read
      else none
  | _ => none

def messageAttachmentSchema (value : Json) : Option MessageAttachmentDto := do
  let fields ← zObject (some value)
  let id ← zUuid (fieldOf "id" fields)
  let storageKey ← zString 1 500 (fieldOf "storageKey" fields)
  let fileName ← zString 1 255 (fieldOf "fileName" fields)
  let contentType ← zString 1 100 (fieldOf "contentType" fields)
  let size ← zPositiveInt (fieldOf "size" fields)
  return { id := parseUuid id, storageKey := textOf storageKey, fileName := textOf fileName,
           contentType := textOf contentType, size }

/-- Missing attachments are an empty list. -/
def attachmentsSchema : Option Json → Option (List MessageAttachmentDto)
  | none => some []
  | some (.array items) => if items.length ≤ 10 then items.mapM messageAttachmentSchema else none
  | some _ => none

def messageContentSchema (fields : List (CodeUnits × Json)) : Option (CodeUnits × List MessageAttachmentDto) := do
  let content ← zString 1 5000 (fieldOf "content" fields)
  let attachments ← attachmentsSchema (fieldOf "attachments" fields)
  return (content, attachments)

def privateMessageSchema (data : Option Json) : Option PrivateMessageDto := do
  let fields ← zObject data
  let (content, attachments) ← messageContentSchema fields
  let receiverId ← zUuid (fieldOf "receiverId" fields)
  return { receiverId, content, attachments }

def groupMessageSchema (data : Option Json) : Option GroupMessageDto := do
  let fields ← zObject data
  let (content, attachments) ← messageContentSchema fields
  let conversationId ← zUuid (fieldOf "conversationId" fields)
  return { conversationId := parseUuid conversationId, content, attachments }

def messageDeliverySchema (data : Option Json) : Option MessageDeliveryDto := do
  let fields ← zObject data
  let conversationId ← zUuid (fieldOf "conversationId" fields)
  let messageId ← zUuid (fieldOf "messageId" fields)
  let status ← zMessageStatus (fieldOf "status" fields)
  return { conversationId := parseUuid conversationId, messageId := parseUuid messageId, status }

def inviteGroupMemberSchema (data : Option Json) : Option InviteGroupMemberDto := do
  let fields ← zObject data
  let conversationId ← zUuid (fieldOf "conversationId" fields)
  let targetUserId ← zUuid (fieldOf "targetUserId" fields)
  return { conversationId := parseUuid conversationId, targetUserId }

def groupInvitationSchema (data : Option Json) : Option Uuid := do
  let fields ← zObject data
  let conversationId ← zUuid (fieldOf "conversationId" fields)
  return parseUuid conversationId

structure TypingDto where
  conversationId : Uuid
  isTyping : Bool

/-- A missing flag is false. -/
def typingFlagSchema : Option Json → Option Bool
  | none => some false
  | some (.bool value) => some value
  | some _ => none

def typingSchema (data : Option Json) : Option TypingDto := do
  let fields ← zObject data
  let conversationId ← zUuid (fieldOf "conversationId" fields)
  let isTyping ← typingFlagSchema (fieldOf "isTyping" fields)
  return { conversationId := parseUuid conversationId, isTyping }

inductive WsClientEvent where
  | authTokenSent
  | sendPrivateMessage
  | sendGroupMessage
  | messageDelivered
  | messageRead
  | groupInviteMember
  | groupInvitationAccept
  | groupInvitationReject
  | typingStart
  | typingStop
  deriving DecidableEq, Repr

/-- These are the values of `WS_CLIENT_EVENTS`. -/
def wsClientEvents : List (CodeUnits × WsClientEvent) :=
  [(units "AUTH_TOKEN_SENT", .authTokenSent),
   (units "SEND_PRIVATE_MESSAGE", .sendPrivateMessage),
   (units "SEND_GROUP_MESSAGE", .sendGroupMessage),
   (units "MESSAGE_DELIVERED", .messageDelivered),
   (units "MESSAGE_READ", .messageRead),
   (units "GROUP_INVITE_MEMBER", .groupInviteMember),
   (units "GROUP_INVITATION_ACCEPT", .groupInvitationAccept),
   (units "GROUP_INVITATION_REJECT", .groupInvitationReject),
   (units "TYPING_START", .typingStart),
   (units "TYPING_STOP", .typingStop)]

/-- Any other type of a message names no event. -/
def wsClientEvent : Option Json → Option WsClientEvent
  | some (.string value) => (wsClientEvents.find? fun entry => entry.1 == value).map Prod.snd
  | _ => none

end Messinger
