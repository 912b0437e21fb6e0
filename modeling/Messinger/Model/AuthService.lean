/-
This file models the accounts of users and admins with the services that sign them in and out.
-/
import Messinger.Model.Authentication
import Messinger.Model.StorageService

namespace Messinger
open Library SessionRepository

structure SignUpDto where
  role : UserRole
  username : Text

structure SignInDto where
  loginKey : Text

structure AdminDto where
  adminName : Text
  password : Text

structure UserDto where
  userId : Uuid

/-- This is `z.enum(UserRole)`. -/
def parseRole (text : Text) : Option UserRole :=
  if text = "USER".toList then some .user
  else if text = "ADMIN".toList then some .admin
  else if text = "SUPER_ADMIN".toList then some .superAdmin
  else none

def trim (text : Text) : Text :=
  ((text.dropWhile isWhiteSpace).reverse.dropWhile isWhiteSpace).reverse

/-- The length of a JavaScript string counts UTF-16 code units. -/
def stringLength (text : Text) : Nat :=
  text.foldl (fun length letter => length + if letter.toNat < 0x10000 then 1 else 2) 0

def isUsernameLetter (letter : Char) : Bool :=
  letter.isAlphanum || letter == '_' || letter == '-'

/-- White space at both ends is dropped, and the runs of white space within become one space. -/
def collapseSpaces (text : Text) : Text :=
  [' '].intercalate ((text.splitOnP isWhiteSpace).filter (· ≠ []))

/-- The words of a username are separated by single spaces. -/
def matchesUsername (text : Text) : Bool :=
  (text.splitOnP isWhiteSpace).all fun word => word ≠ [] && word.all isUsernameLetter

def usernameMinLength : Nat := 3

def usernameMaxLength : Nat := 30

def usernameSchema (text : Text) : Option Text :=
  let username := collapseSpaces text
  if usernameMinLength ≤ stringLength username ∧ stringLength username ≤ usernameMaxLength ∧
      matchesUsername username = true then
    some username
  else none

/-- The role comes from the body of the request, and its default is USER. -/
def signUpSchema (role : Option Text) (username : Text) : Option SignUpDto := do
  let role ← match role with
    | none => some UserRole.user
    | some text => parseRole text
  let username ← usernameSchema username
  return { role, username }

def passwordSchema (password : Text) : Option Text :=
  if 8 ≤ stringLength password ∧ stringLength password ≤ 100 then some password else none

def adminSchema (adminName password : Text) : Option AdminDto := do
  let password ← passwordSchema password
  let adminName ← usernameSchema adminName
  return { adminName, password }

def friendlyAlphabet : Text := "ABCDEFGHJKLMNPQRSTUVWXYZ23456789".toList

def loginKeyLength : Nat := 10

def userCodeLength : Nat := 10

/-- Each letter takes one draw. -/
def generateRandomString (draw : Nat → Nat) (length : Nat) : Text :=
  (List.range length).map fun index =>
    friendlyAlphabet.getD (draw index % friendlyAlphabet.length) 'A'

/-- Some letters outside ASCII have capitals in ASCII.
The capital of any other letter outside ASCII has a letter outside ASCII, and the letter itself stands for it. -/
def capital (letter : Char) : Text :=
  match letter.toNat with
  | 0x00DF => ['S', 'S']
  | 0x0131 => ['I']
  | 0x017F => ['S']
  | 0xFB00 => ['F', 'F']
  | 0xFB01 => ['F', 'I']
  | 0xFB02 => ['F', 'L']
  | 0xFB03 => ['F', 'F', 'I']
  | 0xFB04 => ['F', 'F', 'L']
  | 0xFB05 => ['S', 'T']
  | 0xFB06 => ['S', 'T']
  | _ => [letter.toUpper]

def toUpperCase (text : Text) : Text := text.flatMap capital

def generateLoginKeyLookup (platform : Platform) (loginKey : Text) : Text :=
  platform.hmacSha256 platform.loginKeySecret (toUpperCase (trim loginKey))

def matchesLoginKey (text : Text) : Bool :=
  text.length == loginKeyLength && text.all fun letter => friendlyAlphabet.contains letter

def signInSchema (value : Text) : Option SignInDto :=
  let loginKey := toUpperCase ((trim value).filter fun letter => letter != '-')
  if stringLength loginKey = loginKeyLength ∧ matchesLoginKey loginKey = true then some { loginKey } else none

namespace UserRepository

/-- The lookup of a login key and the user code are unique where they are set. -/
def saveUser (env : Env) (row : User) (store : Store) : Outcome User :=
  if env.succeeds 0 && !(store.users.any fun user =>
      (row.loginKeyLookup.isSome && user.loginKeyLookup == row.loginKeyLookup) ||
        (row.userCode.isSome && user.userCode == row.userCode)) then
    (.ok row, { store with users := store.users ++ [row], nextId := store.nextId + 1 })
  else (.error .failedCall, store)

def findByLoginKeyLookup (store : Store) (loginKeyLookup : Text) : Option User :=
  lookup User.loginKeyLookup (some loginKeyLookup) store.users

/-- The name of an admin is not unique in the table. -/
def findByAdminName (scan : Nat) (store : Store) (adminName : Text) : Option User :=
  pickRow scan (store.users.filter fun user => user.adminName == some adminName)

def findById (store : Store) (userId : Uuid) : Option User :=
  lookup User.id userId store.users

def updateUser (userId : Uuid) (change : User → User) (store : Store) : Store :=
  { store with users := updateWhere (fun user => user.id == userId) change store.users }

end UserRepository

namespace AuthService
open UserRepository

structure ClientInfo where
  userAgent : Text
  ipAddress : Option Text

/-- The handler takes the first forwarded address, or else the address of the socket. -/
def getClientInfo (headers : Headers) (remoteAddress : Option Text) : ClientInfo where
  userAgent := headers.userAgent.getD "unknown".toList
  ipAddress := match headers.xForwardedFor with
    | some addresses => some (trim ((addresses.splitOn ',').headD []))
    | none => remoteAddress

/-- The key, its code and the salt take separate draws. -/
def signup (platform : Platform) (env : Env) (dto : SignUpDto) (store : Store) : Outcome (User × Text) :=
  let userCode := generateRandomString env.draw userCodeLength
  let loginKey := generateRandomString (fun index => env.draw (userCodeLength + index)) loginKeyLength
  let newUser : User :=
    { id := store.nextId, username := some dto.username, userCode := some userCode
      loginKeyHash := some (platform.bcryptHash loginKey (env.draw (userCodeLength + loginKeyLength)))
      loginKeyLookup := some (generateLoginKeyLookup platform loginKey)
      role := dto.role, createdAt := env.now }
  match saveUser env newUser store with
  | (.error exception, next) => (.error exception, next)
  | (.ok savedUser, next) => (.ok (savedUser, loginKey), next)

/-- A missing hash makes `bcrypt.compare` throw. -/
def compareLoginKeyOrPassword (platform : Platform) (key : Text) (encryptedKey : Option Text) :
    Except Exception Bool :=
  match encryptedKey with
  | none => .error .failedCall
  | some encryptedKey => .ok (platform.bcryptCompare key encryptedKey)

def signinChecks (platform : Platform) (store : Store) (dto : SignInDto) : Except Exception User := do
  let some user := findByLoginKeyLookup store (generateLoginKeyLookup platform dto.loginKey)
    | throw (.notFound "USER_NOT_FOUND")
  let isValidLoginKey ← compareLoginKeyOrPassword platform dto.loginKey user.loginKeyHash
  if isValidLoginKey = false then
    throw (.unauthorized "INVALID_LOGIN_KEY")
  return user

/-- Both kinds of account get a session with the role of their row. -/
def openSession (platform : Platform) (env : Env) (client : ClientInfo) (user : User) (store : Store) :
    Outcome (User × Tokens) :=
  match createSession platform env
      { userId := user.id, roles := [user.role], userAgent := client.userAgent
        ipAddress := client.ipAddress } store with
  | (.error exception, next) => (.error exception, next)
  | (.ok tokens, next) => (.ok (user, tokens), next)

def signin (platform : Platform) (env : Env) (client : ClientInfo) (dto : SignInDto) (store : Store) :
    Outcome (User × Tokens) :=
  guarded store (signinChecks platform store dto) fun user => openSession platform env client user store

/-- The service looks at the current hash of each session only. -/
def logout (platform : Platform) (env : Env) (refreshToken : Text) (store : Store) : Outcome Unit :=
  match findByRefreshTokenHash store (platform.sha256 refreshToken) with
  | none => (.ok (), store)
  | some session =>
      if session.isRevoked then (.ok (), store)
      else if env.succeeds 0 then (.ok (), revokeSession session.id .logout store)
      else (.error .failedCall, store)

def adminSignInChecks (platform : Platform) (scan : Nat) (store : Store) (dto : AdminDto) :
    Except Exception User := do
  let some admin := findByAdminName scan store dto.adminName
    | throw (.notFound "ADMIN_NOT_FOUND")
  let isValidPassword ← compareLoginKeyOrPassword platform dto.password admin.passwordHash
  if isValidPassword = false then
    throw (.unauthorized "INVALID_PASSWORD")
  return admin

def adminSignIn (platform : Platform) (env : Env) (client : ClientInfo) (dto : AdminDto) (store : Store) :
    Outcome (User × Tokens) :=
  guarded store (adminSignInChecks platform env.scan store dto) fun admin =>
    openSession platform env client admin store

def createAdmin (platform : Platform) (env : Env) (dto : AdminDto) (store : Store) : Outcome User :=
  match findByAdminName env.scan store dto.adminName with
  | some _ => (.error (.conflict "ADMIN_ALREADY_EXISTS"), store)
  | none =>
      saveUser env
        { id := store.nextId, adminName := some dto.adminName
          passwordHash := some (platform.bcryptHash dto.password (env.draw 0))
          role := .admin, createdAt := env.now } store

end AuthService

end Messinger
