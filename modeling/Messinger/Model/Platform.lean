/-
This file collects what the service calls outside the repository: Node's crypto and Buffer
modules, jsonwebtoken, bcrypt and the texts that PostgreSQL reads as an address, with the environment variables they
are called with.
-/
import Messinger.Model.Types

namespace Messinger

/-- The content of a message is a sequence of UTF-16 code units. -/
abbrev CodeUnits := List UInt16

abbrev Bytes := List UInt8

/-- The service signs these three claims. -/
structure Payload where
  sub : Uuid
  roles : List UserRole
  sid : Uuid
  deriving DecidableEq, Repr

/-- `jwt.verify` returns the payload, throws `TokenExpiredError` or throws another error. -/
inductive Verification where
  | payload (claims : Payload)
  | expired
  | invalid
  deriving DecidableEq, Repr

structure Platform where
  sha256 : Text → Text
  hmacSha256 : (secret value : Text) → Text
  bcryptHash : (key : Text) → (salt : Nat) → Text
  bcryptCompare : (key encryptedKey : Text) → Bool
  jwtSign : Payload → (secret expiresIn : Text) → (now : Nat) → Text
  jwtVerify : (token secret : Text) → (now : Nat) → Verification
  aesSeal : (key iv plain : Bytes) → Bytes × Bytes
  aesOpen : (key iv authTag encrypted : Bytes) → Option Bytes
  toBase64 : Bytes → Text
  fromBase64 : Text → Bytes
  inet : Text → Bool
  jwtSecret : Text
  jwtRefreshSecret : Text
  jwtExpiresIn : Text
  jwtRefreshExpiresIn : Text
  loginKeySecret : Text
  messageEncryptionKey : Bytes
  adminName : Text
  adminPassword : Text

/-- AES-256-GCM opens what it has sealed, and base64 is lossless. -/
structure Platform.Opens (platform : Platform) : Prop where
  aes : ∀ key iv plain,
    platform.aesOpen key iv (platform.aesSeal key iv plain).2 (platform.aesSeal key iv plain).1 =
      some plain
  base64 : ∀ bytes, platform.fromBase64 (platform.toBase64 bytes) = bytes

/-- UTF-8 has no form for a lone surrogate, so Buffer writes U+FFFD. -/
def replacement : Nat := 0xFFFD

def isHighSurrogate (unit : UInt16) : Bool := 0xD800 ≤ unit && unit ≤ 0xDBFF

def isLowSurrogate (unit : UInt16) : Bool := 0xDC00 ≤ unit && unit ≤ 0xDFFF

/-- This is the scalar value of a code unit outside a surrogate pair. -/
def scalarOfUnit (unit : UInt16) : Nat :=
  if isHighSurrogate unit || isLowSurrogate unit then replacement else unit.toNat

/-- Well-formed surrogate pairs become one scalar value each. -/
def scalars : CodeUnits → List Nat
  | [] => []
  | [unit] => [scalarOfUnit unit]
  | high :: low :: rest =>
      if isHighSurrogate high && isLowSurrogate low then
        (0x10000 + (high.toNat - 0xD800) * 0x400 + (low.toNat - 0xDC00)) :: scalars rest
      else scalarOfUnit high :: scalars (low :: rest)

def utf8OfScalar (scalar : Nat) : List Nat :=
  if scalar < 0x80 then [scalar]
  else if scalar < 0x800 then [0xC0 + scalar / 0x40, 0x80 + scalar % 0x40]
  else if scalar < 0x10000 then
    [0xE0 + scalar / 0x1000, 0x80 + scalar / 0x40 % 0x40, 0x80 + scalar % 0x40]
  else
    [0xF0 + scalar / 0x40000, 0x80 + scalar / 0x1000 % 0x40, 0x80 + scalar / 0x40 % 0x40,
      0x80 + scalar % 0x40]

/-- This is `Buffer.from(content, 'utf8')`. -/
def utf8Encode (content : CodeUnits) : Bytes :=
  ((scalars content).flatMap utf8OfScalar).map UInt8.ofNat

def unitsOfScalar (scalar : Nat) : CodeUnits :=
  if scalar < 0x10000 then [UInt16.ofNat scalar]
  else [UInt16.ofNat (0xD800 + (scalar - 0x10000) / 0x400),
    UInt16.ofNat (0xDC00 + (scalar - 0x10000) % 0x400)]

/-- A text of JavaScript is the sequence of its UTF-16 code units. -/
def codeUnits (text : Text) : CodeUnits := text.flatMap fun letter => unitsOfScalar letter.toNat

/-- The decoder remembers the bytes it still needs and the range of the next one. -/
structure Utf8Decoder where
  codePoint : Nat := 0
  needed : Nat := 0
  lower : Nat := 0x80
  upper : Nat := 0xBF

/-- A byte that starts a sequence yields a scalar value or the state for the rest of it. -/
def utf8Start (byte : Nat) : List Nat × Utf8Decoder :=
  if byte < 0x80 then ([byte], {})
  else if 0xC2 ≤ byte ∧ byte ≤ 0xDF then ([], { codePoint := byte - 0xC0, needed := 1 })
  else if 0xE0 ≤ byte ∧ byte ≤ 0xEF then
    ([], { codePoint := byte - 0xE0, needed := 2,
           lower := if byte = 0xE0 then 0xA0 else 0x80,
           upper := if byte = 0xED then 0x9F else 0xBF })
  else if 0xF0 ≤ byte ∧ byte ≤ 0xF4 then
    ([], { codePoint := byte - 0xF0, needed := 3,
           lower := if byte = 0xF0 then 0x90 else 0x80,
           upper := if byte = 0xF4 then 0x8F else 0xBF })
  else ([replacement], {})

/-- A byte out of range ends the sequence with U+FFFD and starts a new one. -/
def utf8Step (decoder : Utf8Decoder) (byte : Nat) : List Nat × Utf8Decoder :=
  if decoder.needed = 0 then utf8Start byte
  else if decoder.lower ≤ byte ∧ byte ≤ decoder.upper then
    let codePoint := decoder.codePoint * 0x40 + (byte - 0x80)
    if decoder.needed = 1 then ([codePoint], {})
    else ([], { codePoint, needed := decoder.needed - 1 })
  else
    let started := utf8Start byte
    (replacement :: started.1, started.2)

def utf8Scalars (decoder : Utf8Decoder) : List Nat → List Nat
  | [] => if decoder.needed = 0 then [] else [replacement]
  | byte :: rest =>
      let stepped := utf8Step decoder byte
      stepped.1 ++ utf8Scalars stepped.2 rest

/-- This is `buffer.toString('utf8')`. -/
def utf8Decode (bytes : Bytes) : CodeUnits :=
  (utf8Scalars {} (bytes.map UInt8.toNat)).flatMap unitsOfScalar

/-- An expiry is a number and a unit, and this is its length in seconds. -/
def parseExpiry (expiry : Text) : Nat :=
  let value := expiry.dropLast.foldl (fun value digit => 10 * value + (digit.toNat - 48)) 0
  match expiry.getLast? with
  | some 's' => value
  | some 'm' => value * 60
  | some 'h' => value * 3600
  | some 'd' => value * 86400
  | _ => 0

def roleLetter : List UserRole → Char
  | [.user] => 'u'
  | [.admin] => 'a'
  | [.superAdmin] => 's'
  | _ => 'n'

def letterRoles : Char → List UserRole
  | 'u' => [.user]
  | 'a' => [.admin]
  | 's' => [.superAdmin]
  | _ => []

/-- Four numbers of one byte each, with dots between them. -/
def isDottedQuad (text : Text) : Bool :=
  (text.splitOn '.').length == 4 && (text.splitOn '.').all fun part =>
    part ≠ [] && part.all Char.isDigit && part.foldl (fun value digit => 10 * value + (digit.toNat - 48)) 0 ≤ 255

/-- A readable platform for runs on small inputs: the hashes keep their text, the cipher keeps its
plain bytes, an address is a dotted quad, and a token lists its claims, its issue time and its lifetime
before the secret. -/
def plainPlatform : Platform where
  sha256 := id
  hmacSha256 _ value := value
  bcryptHash key _ := key
  bcryptCompare key encryptedKey := key == encryptedKey
  jwtSign payload secret expiresIn now :=
    [Char.ofNat payload.sub, roleLetter payload.roles, Char.ofNat payload.sid,
      Char.ofNat (now / 1000000), Char.ofNat (parseExpiry expiresIn)] ++ secret
  jwtVerify token secret now :=
    match token with
    | sub :: role :: sid :: issued :: lifetime :: rest =>
        if rest = secret then
          if now / 1000000 < issued.toNat + lifetime.toNat then
            .payload { sub := sub.toNat, roles := letterRoles role, sid := sid.toNat }
          else .expired
        else .invalid
    | _ => .invalid
  aesSeal _ _ plain := (plain, [])
  aesOpen _ _ _ encrypted := some encrypted
  toBase64 bytes := bytes.map fun byte => Char.ofNat byte.toNat
  fromBase64 text := text.map fun letter => UInt8.ofNat letter.toNat
  inet := isDottedQuad
  jwtSecret := ['j']
  jwtRefreshSecret := ['r']
  jwtExpiresIn := ['1', '5', 'm']
  jwtRefreshExpiresIn := ['7', 'd']
  loginKeySecret := ['k']
  messageEncryptionKey := [0]
  adminName := ['r', 'o', 'o', 't']
  adminPassword := ['p', 'a', 's', 's', 'w', 'o', 'r', 'd']

theorem plainPlatform_opens : plainPlatform.Opens where
  aes _ _ _ := rfl
  base64 bytes := by
    change (bytes.map fun byte => Char.ofNat byte.toNat).map (fun letter => UInt8.ofNat letter.toNat) =
      bytes
    have letters : ∀ code < 256, (Char.ofNat code).toNat = code := by decide +kernel
    have same : ∀ byte : UInt8, UInt8.ofNat (Char.ofNat byte.toNat).toNat = byte := by
      intro byte
      rw [letters byte.toNat byte.toNat_lt, UInt8.ofNat_toNat]
    rw [List.map_map]
    exact (List.map_congr_left fun byte _ => same byte).trans (List.map_id bytes)

end Messinger
