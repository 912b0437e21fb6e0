/-
This file models the migrations of the database, each with the statements that apply it and the statements that
revert it.
-/
import Messinger.Library.SchemaChanges

namespace Messinger
open Library

inductive TableName where
  | userSessions
  | users
  | messageDeliveries
  | conversationMembers
  | conversations
  | messages
  | conversationEvents
  | groupInvitations
  | messageAttachments
  | pendingUploads
  | pushSubscriptions
  deriving DecidableEq, Repr

instance : Fintype TableName where
  elems := {.userSessions, .users, .messageDeliveries, .conversationMembers, .conversations, .messages,
    .conversationEvents, .groupInvitations, .messageAttachments, .pendingUploads, .pushSubscriptions}
  complete table := by cases table <;> decide

inductive ColumnName where
  | id
  | userId
  | refreshTokenHash
  | ipAddress
  | userAgent
  | isRevoked
  | revokedReason
  | expiresAt
  | createdAt
  | previousRefreshTokenHash
  | rotatedAt
  | rotatedAccessToken
  | rotatedRefreshToken
  | username
  | loginKeyHash
  | loginKeyLookup
  | userCode
  | avatarUrl
  | role
  | status
  | lastSeenAt
  | updatedAt
  | deletedAt
  | adminName
  | passwordHash
  | messageId
  | deliveredAt
  | readAt
  | conversationId
  | softDeletedAt
  | restoredAt
  | unreadCount
  | privateKey
  | name
  | type
  | lastMessageId
  | senderId
  | cipheredContent
  | iv
  | authTag
  | actorId
  | targetUserId
  | targetId
  | storageKey
  | fileName
  | contentType
  | size
  | platform
  | provider
  | endpoint
  | p256dh
  | auth
  | token
  deriving DecidableEq, Repr

inductive SqlType where
  | uuid
  | text
  | varchar (length : Nat)
  | char (length : Nat)
  | inet
  | boolean
  | timestamptz
  | timestamp
  | integer
  | bigint
  deriving DecidableEq, Repr

inductive SqlDefault where
  | none
  | uuidGenerateV4
  | now
  | literal (text : String)
  deriving DecidableEq, Repr

structure SqlKind where
  type : SqlType
  default : SqlDefault := .none
  deriving DecidableEq, Repr

abbrev SqlStatement := Statement TableName ColumnName SqlKind

abbrev SqlSchema := Schema TableName ColumnName SqlKind

structure Migration where
  name : String
  up : List SqlStatement
  down : List SqlStatement

namespace Migrations

def nullableColumn (column : ColumnName) (type : SqlType) : ColumnSpec ColumnName SqlKind :=
  { name := column, kind := { type } }

def requiredColumn (column : ColumnName) (type : SqlType) (default : SqlDefault := .none) :
    ColumnSpec ColumnName SqlKind :=
  { name := column, kind := { type, default }, nullable := false }

def idColumn : ColumnSpec ColumnName SqlKind := requiredColumn .id .uuid .uuidGenerateV4

def createdAtColumn : ColumnSpec ColumnName SqlKind := requiredColumn .createdAt .timestamptz .now

def updatedAtColumn : ColumnSpec ColumnName SqlKind := requiredColumn .updatedAt .timestamptz .now

def primaryKey (name : String) (columns : List ColumnName := [.id]) : KeySpec ColumnName :=
  { name, columns, primary := true }

def uniqueKey (name : String) (column : ColumnName) : KeySpec ColumnName := { name, columns := [column] }

/-- Every foreign key refers to the identifiers of its target. -/
def foreignKey (name : String) (table : TableName) (column : ColumnName) (target : TableName)
    (onDelete : DeleteRule) : ReferenceSpec TableName ColumnName :=
  { name, key := { table, column, target, targetColumn := .id, onDelete } }

def initial : Migration where
  name := "InitialMigration1785038174323"
  up := [
    .createTable .userSessions
      [idColumn, requiredColumn .userId .uuid, requiredColumn .refreshTokenHash .text,
        nullableColumn .ipAddress .inet, requiredColumn .userAgent .text,
        requiredColumn .isRevoked .boolean (.literal "false"), nullableColumn .revokedReason (.varchar 50),
        requiredColumn .expiresAt .timestamptz, createdAtColumn]
      [uniqueKey "UQ_cc132fa5f7a96610010e293e526" .refreshTokenHash, primaryKey "PK_e93e031a5fed190d4789b6bfd83"],
    .createTable .users
      [idColumn, requiredColumn .username (.varchar 100), requiredColumn .loginKeyHash .text,
        requiredColumn .loginKeyLookup (.varchar 64), requiredColumn .userCode (.varchar 10),
        nullableColumn .avatarUrl .text, requiredColumn .role (.varchar 50),
        requiredColumn .status (.varchar 50) (.literal "active"), nullableColumn .lastSeenAt .timestamptz,
        createdAtColumn, updatedAtColumn, nullableColumn .deletedAt .timestamptz]
      [uniqueKey "UQ_bff3a20e63af898ea9f67df1f62" .loginKeyLookup, uniqueKey "UQ_23351656ab098559729ac15f50a" .userCode,
        primaryKey "PK_a3ffb1c0c8416b9fc6f907b7433"],
    .createIndex .users ⟨"idx_last_seen_at", [.lastSeenAt]⟩,
    .addForeignKey (foreignKey "FK_e9658e959c490b0a634dfc54783" .userSessions .userId .users .cascade)]
  down := [
    .dropConstraint .userSessions "FK_e9658e959c490b0a634dfc54783",
    .dropIndex "idx_last_seen_at",
    .dropTable .users,
    .dropTable .userSessions]

def messaging : Migration where
  name := "MessagingMigration1785269404547"
  up := [
    .createTable .messageDeliveries
      [idColumn, requiredColumn .messageId .uuid, requiredColumn .userId .uuid,
        requiredColumn .status (.varchar 50) (.literal "SENT"), nullableColumn .deliveredAt .timestamptz,
        nullableColumn .readAt .timestamptz, createdAtColumn, updatedAtColumn]
      [primaryKey "PK_a582991a821a658d1ffab3d8556"],
    .createTable .conversationMembers
      [requiredColumn .conversationId .uuid, requiredColumn .userId .uuid,
        requiredColumn .role (.varchar 50) (.literal "MEMBER"), createdAtColumn]
      [primaryKey "PK_5fa9076068b6f2a26fb793d2439" [.conversationId, .userId]],
    .createTable .conversations
      [idColumn, nullableColumn .privateKey (.char 64), nullableColumn .name (.varchar 100),
        requiredColumn .type (.varchar 50) (.literal "PRIVATE"), createdAtColumn, updatedAtColumn]
      [uniqueKey "UQ_241e01d2ad24eef750293ac946b" .privateKey, primaryKey "PK_ee34f4f7ced4ec8681f26bf04ef"],
    .createTable .messages
      [idColumn, requiredColumn .conversationId .uuid, requiredColumn .senderId .uuid,
        requiredColumn .cipheredContent .text, requiredColumn .iv (.varchar 24), requiredColumn .authTag (.varchar 32),
        createdAtColumn]
      [primaryKey "PK_18325f38ae6de43878487eff986"],
    .addForeignKey (foreignKey "FK_764d21f361d0f6b155ad2273dee" .messageDeliveries .messageId .messages .cascade),
    .addForeignKey
      (foreignKey "FK_36340a1704b039608e34244511f" .conversationMembers .conversationId .conversations .cascade),
    .addForeignKey (foreignKey "FK_a46c76be8f62c4b00a835cdc370" .conversationMembers .userId .users .cascade),
    .addForeignKey (foreignKey "FK_3bc55a7c3f9ed54b520bb5cfe23" .messages .conversationId .conversations .cascade),
    .addForeignKey (foreignKey "FK_22133395bd13b970ccd0c34ab22" .messages .senderId .users .noAction)]
  down := [
    .dropConstraint .messages "FK_22133395bd13b970ccd0c34ab22",
    .dropConstraint .messages "FK_3bc55a7c3f9ed54b520bb5cfe23",
    .dropConstraint .conversationMembers "FK_a46c76be8f62c4b00a835cdc370",
    .dropConstraint .conversationMembers "FK_36340a1704b039608e34244511f",
    .dropConstraint .messageDeliveries "FK_764d21f361d0f6b155ad2273dee",
    .dropTable .messages,
    .dropTable .conversations,
    .dropTable .conversationMembers,
    .dropTable .messageDeliveries]

def groupMessaging : Migration where
  name := "GroupMessagingMigration1785489913377"
  up := [
    .createTable .conversationEvents
      [idColumn, requiredColumn .conversationId .uuid, requiredColumn .actorId .uuid,
        nullableColumn .targetUserId .uuid, requiredColumn .type (.varchar 50) (.literal "GROUP_CREATED"),
        createdAtColumn]
      [primaryKey "PK_d69d1aeac5bf8d33983a582653d"],
    .createIndex .conversationEvents ⟨"IDX_a6dfae8c6391d70fda8dde2812", [.conversationId, .createdAt]⟩,
    .addColumn .conversationMembers (nullableColumn .softDeletedAt .timestamptz),
    .addColumn .conversationMembers (nullableColumn .restoredAt .timestamptz),
    .addForeignKey
      (foreignKey "FK_ba970f7c2f1f3d96bcfbda1a998" .conversationEvents .conversationId .conversations .cascade)]
  down := [
    .dropConstraint .conversationEvents "FK_ba970f7c2f1f3d96bcfbda1a998",
    .dropColumn .conversationMembers .restoredAt,
    .dropColumn .conversationMembers .softDeletedAt,
    .dropIndex "IDX_a6dfae8c6391d70fda8dde2812",
    .dropTable .conversationEvents]

def offlineSync : Migration where
  name := "OfflineSyncMigration1785539774890"
  up := [
    .createTable .groupInvitations
      [idColumn, requiredColumn .conversationId .uuid, requiredColumn .actorId .uuid, requiredColumn .targetId .uuid,
        requiredColumn .status (.varchar 50) (.literal "PENDING"), nullableColumn .expiresAt .timestamptz,
        createdAtColumn, updatedAtColumn]
      [primaryKey "PK_f7d0b290d6079ae9353d794227d"],
    .addForeignKey
      (foreignKey "FK_eeddfe341909d41cc46a47ad9fb" .groupInvitations .conversationId .conversations .cascade),
    .addForeignKey (foreignKey "FK_ed160c4f3dbeb108c78737fdc44" .groupInvitations .actorId .users .cascade),
    .addForeignKey (foreignKey "FK_cc29bdf33812b3920331474734d" .groupInvitations .targetId .users .cascade)]
  down := [
    .dropConstraint .groupInvitations "FK_cc29bdf33812b3920331474734d",
    .dropConstraint .groupInvitations "FK_ed160c4f3dbeb108c78737fdc44",
    .dropConstraint .groupInvitations "FK_eeddfe341909d41cc46a47ad9fb",
    .dropTable .groupInvitations]

def conversationsList : Migration where
  name := "ConversationsListMigration1785548511040"
  up := [
    .addColumn .conversationMembers (requiredColumn .unreadCount .integer (.literal "0")),
    .addColumn .conversations (nullableColumn .lastMessageId .uuid),
    .addForeignKey (foreignKey "FK_a53679287450d522a3f700088e9" .conversations .lastMessageId .messages .noAction)]
  down := [
    .dropConstraint .conversations "FK_a53679287450d522a3f700088e9",
    .dropColumn .conversations .lastMessageId,
    .dropColumn .conversationMembers .unreadCount]

def files : Migration where
  name := "FilesMigration1785801190513"
  up := [
    .createTable .messageAttachments
      [idColumn, requiredColumn .messageId .uuid, requiredColumn .storageKey (.varchar 500),
        requiredColumn .fileName (.varchar 255), requiredColumn .contentType (.varchar 100),
        requiredColumn .size .bigint, createdAtColumn]
      [primaryKey "PK_e5085d973567c61e9306f10f95b"],
    .createIndex .messageAttachments ⟨"IDX_bf65c3db8657cef6197b68b8c8", [.messageId]⟩,
    .createTable .pendingUploads
      [idColumn, requiredColumn .userId .uuid, requiredColumn .storageKey (.varchar 500),
        requiredColumn .fileName (.varchar 255), requiredColumn .contentType (.varchar 100),
        requiredColumn .size .bigint, requiredColumn .expiresAt .timestamptz, createdAtColumn]
      [uniqueKey "UQ_07a490fb3ae5ce47e78d5558df3" .storageKey, primaryKey "PK_d0e9b5ff2b7d70fc4bca7708d0c"],
    .createIndex .pendingUploads ⟨"IDX_515bac48c679d1f3c06d5a0ee8", [.userId]⟩,
    .addForeignKey (foreignKey "FK_bf65c3db8657cef6197b68b8c88" .messageAttachments .messageId .messages .cascade)]
  down := [
    .dropConstraint .messageAttachments "FK_bf65c3db8657cef6197b68b8c88",
    .dropIndex "IDX_515bac48c679d1f3c06d5a0ee8",
    .dropTable .pendingUploads,
    .dropIndex "IDX_bf65c3db8657cef6197b68b8c8",
    .dropTable .messageAttachments]

def admin : Migration where
  name := "AdminMigration1786151449490"
  up := [
    .addColumn .users (nullableColumn .adminName (.varchar 255)),
    .addColumn .users (nullableColumn .passwordHash (.varchar 255))]
  down := [
    .dropColumn .users .passwordHash,
    .dropColumn .users .adminName]

def index : Migration where
  name := "IndexMigration1786402083868"
  up := [
    .dropIndex "IDX_bf65c3db8657cef6197b68b8c8",
    .dropIndex "IDX_515bac48c679d1f3c06d5a0ee8",
    .alterNullable .userSessions .userAgent true,
    .createIndex .userSessions ⟨"idx_user_sessions_user_id", [.userId]⟩,
    .createIndex .userSessions ⟨"idx_user_sessions_refresh_token_hash", [.refreshTokenHash]⟩,
    .createIndex .users ⟨"idx_user_code", [.userCode]⟩,
    .createIndex .messageDeliveries ⟨"idx_message_deliveries_message_id_user_id", [.messageId, .userId]⟩,
    .createIndex .conversationMembers
      ⟨"idx_conversation_members_conversation_id_soft_deleted_at", [.conversationId, .softDeletedAt]⟩,
    .createIndex .conversationMembers
      ⟨"idx_conversation_members_conversation_id_user_id", [.conversationId, .userId]⟩,
    .createIndex .conversations ⟨"idx_conversation_updated_at", [.updatedAt]⟩,
    .createIndex .messageAttachments ⟨"idx_message_attachments_message_id", [.messageId]⟩,
    .createIndex .messages ⟨"idx_messages_conversation_id_user_id", [.conversationId, .createdAt]⟩,
    .createIndex .groupInvitations
      ⟨"idx_group_invitations_conversation_id_user_id", [.conversationId, .targetId]⟩,
    .createIndex .pendingUploads ⟨"idx_pending_upload_user_id", [.userId]⟩]
  down := [
    .dropIndex "idx_pending_upload_user_id",
    .dropIndex "idx_group_invitations_conversation_id_user_id",
    .dropIndex "idx_messages_conversation_id_user_id",
    .dropIndex "idx_message_attachments_message_id",
    .dropIndex "idx_conversation_updated_at",
    .dropIndex "idx_conversation_members_conversation_id_user_id",
    .dropIndex "idx_conversation_members_conversation_id_soft_deleted_at",
    .dropIndex "idx_message_deliveries_message_id_user_id",
    .dropIndex "idx_user_code",
    .dropIndex "idx_user_sessions_refresh_token_hash",
    .dropIndex "idx_user_sessions_user_id",
    .alterNullable .userSessions .userAgent false,
    .createIndex .pendingUploads ⟨"IDX_515bac48c679d1f3c06d5a0ee8", [.userId]⟩,
    .createIndex .messageAttachments ⟨"IDX_bf65c3db8657cef6197b68b8c8", [.messageId]⟩]

def userSession : Migration where
  name := "UserSessionMigration1786647120680"
  up := [
    .addColumn .userSessions (nullableColumn .previousRefreshTokenHash .text),
    .addColumn .userSessions (nullableColumn .rotatedAt .timestamptz),
    .addColumn .userSessions (nullableColumn .rotatedAccessToken .text),
    .addColumn .userSessions (nullableColumn .rotatedRefreshToken .text)]
  down := [
    .dropColumn .userSessions .rotatedRefreshToken,
    .dropColumn .userSessions .rotatedAccessToken,
    .dropColumn .userSessions .rotatedAt,
    .dropColumn .userSessions .previousRefreshTokenHash]

def pushNotification : Migration where
  name := "PushNotificationMigration1786994228394"
  up := [
    .createTable .pushSubscriptions
      [idColumn, requiredColumn .userId .uuid, requiredColumn .platform (.varchar 50),
        requiredColumn .provider (.varchar 50), nullableColumn .endpoint .text, nullableColumn .p256dh .text,
        nullableColumn .auth .text, nullableColumn .token .text, requiredColumn .createdAt .timestamp .now,
        requiredColumn .updatedAt .timestamp .now]
      [primaryKey "PK_757fc8f00c34f66832668dc2e53"],
    .createIndex .pushSubscriptions ⟨"idx_push_subscriptions_user_id", [.userId]⟩,
    .addForeignKey (foreignKey "FK_6771f119f1c06d2ccf38f238664" .pushSubscriptions .userId .users .cascade)]
  down := [
    .dropConstraint .pushSubscriptions "FK_6771f119f1c06d2ccf38f238664",
    .dropIndex "idx_push_subscriptions_user_id",
    .dropTable .pushSubscriptions]

def messageDeletion : Migration where
  name := "MessageDeletionMigration1787100031294"
  up := [
    .dropConstraint .conversations "FK_a53679287450d522a3f700088e9",
    .addForeignKey (foreignKey "FK_a53679287450d522a3f700088e9" .conversations .lastMessageId .messages .setNull)]
  down := [
    .dropConstraint .conversations "FK_a53679287450d522a3f700088e9",
    .addForeignKey (foreignKey "FK_a53679287450d522a3f700088e9" .conversations .lastMessageId .messages .noAction)]

def messageOnUserDeletion : Migration where
  name := "MessageMigrationOnUserDeletion1787100739442"
  up := [
    .dropConstraint .messages "FK_22133395bd13b970ccd0c34ab22",
    .alterNullable .messages .senderId true,
    .addForeignKey (foreignKey "FK_22133395bd13b970ccd0c34ab22" .messages .senderId .users .setNull)]
  down := [
    .dropConstraint .messages "FK_22133395bd13b970ccd0c34ab22",
    .alterNullable .messages .senderId false,
    .addForeignKey (foreignKey "FK_22133395bd13b970ccd0c34ab22" .messages .senderId .users .noAction)]

def user : Migration where
  name := "UserMigration1787111156694"
  up := [
    .alterNullable .users .username true,
    .alterNullable .users .loginKeyHash true,
    .alterNullable .users .loginKeyLookup true,
    .alterNullable .users .userCode true,
    .addForeignKey (foreignKey "FK_515bac48c679d1f3c06d5a0ee81" .pendingUploads .userId .users .cascade)]
  down := [
    .dropConstraint .pendingUploads "FK_515bac48c679d1f3c06d5a0ee81",
    .alterNullable .users .userCode false,
    .alterNullable .users .loginKeyLookup false,
    .alterNullable .users .loginKeyHash false,
    .alterNullable .users .username false]

/-- The names end in the times by which the runner orders the migrations. -/
def all : List Migration :=
  [initial, messaging, groupMessaging, offlineSync, conversationsList, files, admin, index, userSession,
    pushNotification, messageDeletion, messageOnUserDeletion, user]

end Migrations

/-- The runner remembers how many migrations the database has. -/
structure MigratedDatabase where
  schema : SqlSchema := fun _ => none
  applied : Nat := 0

inductive MigrationCommand where
  | run
  | revert
  deriving DecidableEq

/-- The migrations that are still to come run one after the other in one transaction. -/
def MigratedDatabase.run (database : MigratedDatabase) : Option MigratedDatabase := do
  let schema ← (Migrations.all.drop database.applied).foldlM
    (fun (schema : SqlSchema) migration => schema.applyAll migration.up) database.schema
  return { schema, applied := max database.applied Migrations.all.length }

/-- Only the last migration is reverted. -/
def MigratedDatabase.revert (database : MigratedDatabase) : Option MigratedDatabase :=
  match database.applied with
  | 0 => some database
  | applied + 1 => do
      let migration ← Migrations.all[applied]?
      let schema ← database.schema.applyAll migration.down
      return { schema, applied }

def MigratedDatabase.execute (database : MigratedDatabase) : MigrationCommand → Option MigratedDatabase
  | .run => database.run
  | .revert => database.revert

end Messinger
