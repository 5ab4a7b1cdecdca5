import TestDouble.Harness

/-!
# The user service

A subject under test: it looks users up in a repository and adds new ones, whose email address
must not be taken.
-/

namespace TestDouble

/-- Somebody with an email address. -/
structure User where
  id : UInt32
  name : String
  email : String
  deriving DecidableEq

/-- Users as JSON records. -/
def User.codec : Codec User where
  encode u :=
    .object [("id", Codec.u32.encode u.id), ("name", .str u.name), ("email", .str u.email)]
  decode v := do
    let found ← Fields.read "User"
      [.of .required "id" .u32, .of .required "name" .text, .of .required "email" .text] v
    return {
      id := ← Fields.get .u32 "id" found
      name := ← Fields.get .text "name" found
      email := ← Fields.get .text "email" found }

/-- Why the service refuses. -/
inductive ServiceError where
  /-- A call of the repository failed. -/
  | call (e : TestError)
  /-- The service has a reason of its own. -/
  | refusal (message : String)

/-- The service with its collaborator. -/
structure UserService where
  repository : Surface
  logger : Logger

namespace UserService

/-- The service on a bench, its collaborator stood in for by a surface. -/
def onBench : BenchM UserService := do
  return ⟨← Bench.surface "UserRepository", ← Bench.logger "UserService"⟩

/-- Looks a user up. -/
def getUser (s : UserService) (id : UInt32) : BenchM (Except TestError (Option User)) := do
  Bench.log s.logger .debug ("Getting user " ++ toString id.toNat) none
  Bench.perform <|
    s.repository.call "get_by_id" (.option User.codec) (.value (.arr [Codec.u32.encode id]))

/-- The names of all users. -/
def userNames (s : UserService) : BenchM (Except TestError (List String)) := do
  let users ← Bench.perform <|
    s.repository.callOrDefault "get_all" (.list User.codec) [] (.value .null)
  return users.map fun users => users.map (·.name)

/-- Whether an email address is taken. -/
def isTaken (s : UserService) (email : String) : Recording (Except TestError Bool) :=
  s.repository.callOrDefault "exists" .bool false (.value (.arr [.str email]))

/-- Asks for a user to be added. -/
def add (s : UserService) (u : User) : Recording (Except TestError Unit) :=
  s.repository.call "add" .unit (.value (.arr [User.codec.encode u]))

/-- Adds a user with a name and an email address that must not be taken. -/
def createUser (s : UserService) (name email : String) : BenchM (Except ServiceError User) := do
  match ← Bench.perform (s.isTaken email) with
  | .error e => return .error (.call e)
  | .ok true =>
    let message := "User with email " ++ email ++ " already exists"
    Bench.log s.logger .warning message none
    return .error (.refusal message)
  | .ok false =>
    let user : User := ⟨0, name, email⟩
    match ← Bench.perform (s.add user) with
    | .error e => return .error (.call e)
    | .ok () =>
      Bench.log s.logger .information ("Created user " ++ name) none
      return .ok user

end UserService
end TestDouble
