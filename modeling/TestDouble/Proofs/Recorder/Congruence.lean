import Mathlib.Tactic.SplitIfs
import TestDouble.Recorder

/-!
# What replies depend on

A request reads nothing on a desk but the book. So on desks with the same book a request is replied
to alike and leaves the same book (`serve_congr`), and the same goes for programs (`run_congr`),
whatever was told and shown before.
-/

namespace TestDouble.Recorder

/-- The same result, and the same book afterwards. -/
def Alike {α : Type} (x y : Except Stop α × Desk) : Prop := x.1 = y.1 ∧ x.2.book = y.2.book

variable {mode : Mode} {s l : Desk}

theorem register_congr (saturate : Bool) (operation : String) (matcher : ArgumentMatcher)
    (outcome : Outcome) (times : Times) (hb : s.book = l.book) :
    Alike (register mode saturate operation matcher outcome times s)
      (register mode saturate operation matcher outcome times l) := by
  simp only [register, hb]
  cases Book.shadowOf saturate operation matcher l.book.expectations with
  | error c => exact ⟨rfl, hb⟩
  | ok shadow =>
    cases shadow with
    | none => exact ⟨rfl, rfl⟩
    | some existing =>
      cases mode with
      | strict => exact ⟨rfl, hb⟩
      | lenient => exact ⟨rfl, rfl⟩

theorem record_congr (mode : Mode) (saturate : Bool) (operation : String) (arguments : List Json)
    (hb : s.book = l.book) :
    Alike (record mode saturate operation arguments s)
      (record mode saturate operation arguments l) := by
  simp only [record, hb]
  rcases l.book.record saturate operation arguments with ⟨c | hit, b⟩ <;> exact ⟨rfl, rfl⟩

/-- A verification looks only at the book. -/
theorem verify_congr (operation : String) (matcher : ArgumentMatcher) (times : Times)
    (hb : s.book = l.book) :
    (verify operation matcher times s).1 = (verify operation matcher times l).1 ∧
      (verify operation matcher times s).2.book = (verify operation matcher times l).2.book := by
  simp only [verify, hb]
  cases l.book.verify operation matcher times with
  | error c => exact ⟨rfl, hb⟩
  | ok p => exact ⟨rfl, rfl⟩

/-- A program looks only at the book if its requests do. -/
theorem run_congr {serve : {k : RequestKind} → Request k → Desk → Except Stop k.Reply × Desk}
    (hserve : ∀ {k : RequestKind} (q : Request k) {s l : Desk}, s.book = l.book →
      Alike (serve q s) (serve q l))
    {α : Type} (p : Recording α) (hb : s.book = l.book) :
    Alike (p.run serve s) (p.run serve l) := by
  induction p generalizing s l with
  | done a => exact ⟨rfl, hb⟩
  | crash c => exact ⟨rfl, hb⟩
  | report e rest ih => exact ih (s := { s with reported := some e }) hb
  | ask q next ih =>
    obtain ⟨hreply, hbook⟩ := hserve q hb
    simp only [Program.run]
    rcases hs : serve q s with ⟨stop | reply, s'⟩ <;>
      rcases hl : serve q l with ⟨stop' | reply', l'⟩ <;> rw [hs, hl] at hreply hbook
    · obtain rfl : stop = stop' := Except.error.inj hreply
      exact ⟨rfl, hbook⟩
    · cases hreply
    · cases hreply
    · obtain rfl : reply = reply' := Except.ok.inj hreply
      exact ih reply hbook

section

variable {run : Recording (Except Failure Json) → Desk → Except Stop (Except Failure Json) × Desk}

theorem apply_congr (hrun : ∀ p {s l : Desk}, s.book = l.book → Alike (run p s) (run p l))
    (answered : Nat) (arguments : List Json) (o : Outcome) (hb : s.book = l.book) :
    Alike (apply run answered arguments o s) (apply run answered arguments o l) := by
  cases o with
  | returns v => exact ⟨rfl, hb⟩
  | fails failure => exact ⟨rfl, hb⟩
  | callback body =>
    obtain ⟨hreply, hbook⟩ := hrun (body answered arguments) hb
    simp only [apply]
    rcases hs : run (body answered arguments) s with ⟨r, s'⟩
    rcases hl : run (body answered arguments) l with ⟨r', l'⟩
    rw [hs, hl] at hreply hbook
    obtain rfl : r = r' := hreply
    rcases r with stop | failure | v <;> exact ⟨rfl, hbook⟩

theorem invoke_congr (hrun : ∀ p {s l : Desk}, s.book = l.book → Alike (run p s) (run p l))
    (saturate : Bool) (operation : String) (arguments : List Json) (hb : s.book = l.book) :
    Alike (invoke run mode saturate operation arguments s)
      (invoke run mode saturate operation arguments l) := by
  obtain ⟨hhit, hbook⟩ := record_congr mode saturate operation arguments hb
  unfold invoke
  rcases hs : record mode saturate operation arguments s with ⟨r, s'⟩
  rcases hl : record mode saturate operation arguments l with ⟨r', l'⟩
  rw [hs, hl] at hhit hbook
  obtain rfl : r = r' := hhit
  rcases r with stop | hit
  · exact ⟨rfl, hbook⟩
  · cases hit with
    | none => exact ⟨rfl, hbook⟩
    | some e =>
      dsimp only
      split_ifs
      · exact ⟨rfl, hbook⟩
      · exact apply_congr hrun _ arguments e.outcome hbook

end

/-- A request looks only at the book if calls do. -/
theorem serve_congr_of_invoke {depth : Nat}
    (hinvoke : ∀ saturate operation arguments {s l : Desk}, s.book = l.book →
      Alike (serve mode depth (.invoke saturate operation arguments) s)
        (serve mode depth (.invoke saturate operation arguments) l))
    {k : RequestKind} (q : Request k) (hb : s.book = l.book) :
    Alike (serve mode depth q s) (serve mode depth q l) := by
  cases q with
  | register saturate operation matcher outcome times =>
    rw [serve, serve]
    exact register_congr saturate operation matcher outcome times hb
  | invoke saturate operation arguments => exact hinvoke saturate operation arguments hb
  | verify operation matcher times =>
    rw [serve, serve]
    exact verify_congr operation matcher times hb
  | verifyAll =>
    rw [serve, serve]
    exact ⟨by simp only [verifyAll, hb], hb⟩
  | verifyNoOtherCalls =>
    rw [serve, serve]
    exact ⟨by simp only [verifyNoOtherCalls, hb], hb⟩
  | calls =>
    rw [serve, serve]
    exact ⟨by rw [hb], hb⟩
  | expectations =>
    rw [serve, serve]
    exact ⟨by rw [hb], hb⟩
  | reset =>
    rw [serve, serve]
    exact ⟨rfl, rfl⟩

/-- **A request looks only at the book.** -/
theorem serve_congr (mode : Mode) (depth : Nat) {k : RequestKind} (q : Request k)
    (hb : s.book = l.book) : Alike (serve mode depth q s) (serve mode depth q l) := by
  induction depth generalizing k q s l with
  | zero =>
    refine serve_congr_of_invoke (fun saturate operation arguments _ _ h => ?_) q hb
    rw [serve, serve]
    exact invoke_congr (fun _ _ _ h => ⟨rfl, h⟩) saturate operation arguments h
  | succ depth ih =>
    refine serve_congr_of_invoke (fun saturate operation arguments _ _ h => ?_) q hb
    rw [serve, serve]
    exact invoke_congr (fun p _ _ h => run_congr (fun q _ _ h => ih q h) p h) saturate operation
      arguments h

end TestDouble.Recorder
