import TestDouble.Program

/-!
# Ready-made callbacks

Bodies for the callbacks of outcomes. Those here ask nothing of the recorder.
-/

namespace TestDouble.Callback

/-- Answers with a failure that is a bare message. -/
def failWith (text : String) : Recording (Except Failure Json) := .done (.error (.message text))

/-- Gives back one of the arguments. -/
def echo (index : Nat) : Callback := fun _ arguments =>
  match arguments[index]? with
  | some v => .done (.ok v)
  | none => failWith ("no argument " ++ toString index)

/-- Gives back the list of the arguments. -/
def arguments : Callback := fun _ arguments => .done (.ok (.arr arguments))

/-- Gives back how many arguments there are. -/
def count : Callback := fun _ arguments => .done (.ok (.nat arguments.length))

/-- Gives back the first argument if it is a text. -/
def text : Callback := fun _ arguments =>
  match arguments with
  | .str s :: _ => .done (.ok (.str s))
  | _ => failWith "argument 0 is not text"

/-- Fails. -/
def fail (failure : Failure) : Callback := fun _ _ => .done (.error failure)

/-- Gives up. -/
def crash : Callback := fun _ _ => .crash ⟨"callback panicked"⟩

/-- Counts up from a number, one for each call. -/
def counter (start : Int) : Callback := fun answered _ => .done (.ok (.int (start + answered)))

/-- Gives the values in turn and fails when they are used up. -/
def sequence (values : List Json) : Callback := fun answered _ =>
  match values[answered]? with
  | some v => .done (.ok v)
  | none => failWith "sequence is over"

/-- Turns a failure into a value, its text. -/
def forgiving (body : Callback) : Nat → List Json → Recording Json := fun answered arguments =>
  (body answered arguments).bind fun
    | .ok v => .done v
    | .error failure => .done (.str failure.text)

end TestDouble.Callback
