import TestDouble.Scenario.Basic

/-!
# Scenarios of the user service
-/

namespace TestDouble.Scenario.Users

/-- Expects a call of the repository. -/
def expectUsers (method : String) (parts : List ExpectationBuilder.Part) : BenchM Unit :=
  expect "UserRepository" method parts

/-- Looks a user up, which must succeed. -/
def getUser (id : UInt32) : BenchM (Option User) := do
  require (← (← UserService.onBench).getUser id)

/-- Adds a user. -/
def createUser (name email : String) : BenchM (Except ServiceError User) := do
  (← UserService.onBench).createUser name email

/-- The user that the repository is told to give is the user that the service gives. -/
def configuredUser : Scenario := .strict do
  let alice : User := ⟨1, "Alice", "alice@example.com"⟩
  expectUsers "get_by_id" [withArguments [.int 1], returning (User.codec.encode alice)]
  expectUsers "get_by_id" [withArguments [.int 2], returning .null]
  check ((← getUser 1) = some alice)
  check ((← getUser 2) = none)
  verified

/-- A new user is passed to the repository. -/
def newUser : Scenario := .strict do
  expectUsers "exists" [.matching [.any], returning (.bool false)]
  expectUsers "add"
    [.matching [.satisfying User.codec "user named Bob" fun u => .ok (u.name == "Bob")],
     .calls fun _ _ => .done (.ok .null)]
  match ← createUser "Bob" "bob@example.com" with
  | .error _ => Bench.crash "the user was refused"
  | .ok user =>
    check (user.email == "bob@example.com")
    let repository ← Bench.surface "UserRepository"
    let added ← Bench.perform (repository.callsTo "add")
    check (added.length = 1)
    check (added.head?.any fun c => c.argument? User.codec 0 == some user)
    verified

/-- A user whose email address is taken is not added. -/
def duplicateEmail : Scenario := .strict do
  expectUsers "exists" [withArguments [.str "carol@example.com"], returning (.bool true)]
  expectUsers "add" [.matching [.any], .times .never]
  match ← createUser "Carol" "carol@example.com" with
  | .error (.refusal message) => check (Text.contains message "already exists")
  | _ => Bench.crash "the user was not refused"
  check ((← Bench.snapshot).latest?.any fun r =>
    r.message == "User with email carol@example.com already exists")
  verified

/-- A lenient repository that expects nothing answers with defaults. -/
def lenientDefaults : Scenario where
  config := { Config.lenient with verifyNoOtherCalls := false }
  body := do
    let names ← require (← (← UserService.onBench).userNames)
    check names.isEmpty
    check ((← getUser 7) = none)
    let repository ← Bench.surface "UserRepository"
    let calls ← Bench.perform repository.calls
    check (calls.length = 2)
    check (calls.all fun c => c.matched.isNone)
    verified

/-- Calls can be verified after they were made. -/
def verifiedAfterwards : Scenario where
  config := .lenient
  body := do
    let _ ← getUser 3
    let _ ← getUser 3
    let _ ← getUser 4
    let repository ← Bench.surface "UserRepository"
    let verify := fun (id : Int) (t : Times) =>
      Bench.perform (repository.verify "get_by_id" ⟨[.exact (.int id)]⟩ t)
    require (← verify 3 (.exactly 2))
    let _ ← requireError (← verify 4 .never)
    require (← verify 4 .once)
    verified

end TestDouble.Scenario.Users
