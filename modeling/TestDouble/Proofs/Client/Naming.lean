import Mathlib.Data.List.Forall2
import TestDouble.Proofs.Client.Encoding
import TestDouble.Proofs.Recorder.Relevance

/-!
# Surfaces and the names of their operations

All surfaces of a recorder share its calls. What tells them apart is how the names of their
operations begin, with the capability and the separator. Two surfaces have an operation in common
exactly if one of these beginnings is a beginning of the other: they *collide*. A surface takes
every call of an operation of its own for its own (`Surface.startsWith_iff`), and has nothing to do
with any other call (`Surface.ignores_of_ne`).

So it can be said of whole runs what a surface lists. `ClientTurn` keeps with a call the surface
that it is made through, and `ClientTurn.arrivals` goes along with the run and keeps these turns in
the order in which their calls are recorded (`surfaces_collide_iff`).
-/

namespace TestDouble

/-! ### Names -/

namespace Surface

variable (s : Surface)

theorem toList_operation (method : String) :
    (s.operation method).toList =
      (s.capability ++ s.handle.separator).toList ++ method.toList := by
  rw [operation, String.toList_append]

theorem toList_operation_empty :
    (s.operation "").toList = (s.capability ++ s.handle.separator).toList := by
  rw [toList_operation, String.toList_empty, List.append_nil]

/-- The operations of a surface are the names that begin with its capability and the separator. -/
theorem prefix_iff {operation : String} :
    (s.capability ++ s.handle.separator).toList <+: operation.toList ↔
      ∃ method, s.operation method = operation := by
  constructor
  · rintro ⟨rest, hrest⟩
    refine ⟨String.ofList rest, String.toList_inj.mp ?_⟩
    rw [toList_operation, String.toList_ofList, hrest]
  · rintro ⟨method, rfl⟩
    rw [toList_operation]
    exact List.prefix_append _ _

/-- What a surface takes for its own are its operations. -/
theorem startsWith_iff {operation : String} :
    Text.startsWith operation (s.operation "") = true ↔
      ∃ method, s.operation method = operation := by
  rw [Text.startsWith_iff, toList_operation_empty, prefix_iff]

end Surface

namespace Handle

/-- Two capabilities collide if one of them with the separator behind it is a beginning of the other
one with the separator behind it. -/
def Collide (h : Handle) (c₁ c₂ : String) : Prop :=
  (c₁ ++ h.separator).toList <+: (c₂ ++ h.separator).toList ∨
    (c₂ ++ h.separator).toList <+: (c₁ ++ h.separator).toList

instance (h : Handle) (c₁ c₂ : String) : Decidable (h.Collide c₁ c₂) :=
  inferInstanceAs (Decidable (_ ∨ _))

variable {h : Handle} {c₁ c₂ : String}

theorem Collide.symm (hcollide : h.Collide c₁ c₂) : h.Collide c₂ c₁ := Or.symm hcollide

/-- If one capability is a beginning of another, each followed by the separator, then the second
surface's operation without a method is one of the first surface. -/
theorem exists_operation_eq_of_prefix
    (hbegins : (c₁ ++ h.separator).toList <+: (c₂ ++ h.separator).toList) :
    ∃ m₁, (h.surface c₁).operation m₁ = (h.surface c₂).operation "" := by
  rw [← Surface.prefix_iff, Surface.toList_operation_empty]
  exact hbegins

/-- **Two surfaces have an operation in common exactly if they collide.** -/
theorem exists_operation_eq_iff :
    (∃ m₁ m₂, (h.surface c₁).operation m₁ = (h.surface c₂).operation m₂) ↔ h.Collide c₁ c₂ := by
  constructor
  · rintro ⟨m₁, m₂, heq⟩
    -- both beginnings are beginnings of the one name
    exact List.prefix_or_prefix_of_prefix ((h.surface c₁).prefix_iff.mpr ⟨m₁, heq⟩)
      ((h.surface c₂).prefix_iff.mpr ⟨m₂, rfl⟩)
  · rintro (hbegins | hbegins)
    · obtain ⟨m₁, hm₁⟩ := exists_operation_eq_of_prefix hbegins
      exact ⟨m₁, "", hm₁⟩
    · obtain ⟨m₂, hm₂⟩ := exists_operation_eq_of_prefix hbegins
      exact ⟨"", m₂, hm₂.symm⟩

end Handle

/-! ### Calls that a surface has nothing to do with -/

/-- A verification replies by the calls of its own operation. -/
theorem Check.reply_filter (k : Check) (b : Book) :
    k.reply { b with calls := b.calls.filter (·.operation = k.operation) } = k.reply b := by
  refine k.reply_congr_of_tally ?_
  rw [Book.tally_filter]
  cases Book.tally k.operation k.matcher b.calls <;> rfl

/-- A surface has nothing to do with a call of a book. -/
structure Surface.Ignores (mode : Mode) (depth : Nat) (s : Surface) (b : Book) (c : RecordedCall) :
    Prop where
  /-- The surface does not list the call. -/
  unlisted : ∀ d : Desk, d.book = b →
    ∃ listed, (s.calls.run (Recorder.serve mode depth) d).1 = .ok listed ∧ c ∉ listed
  /-- The call has not been taken by an expectation of a method of the surface. -/
  unmatched : ∀ (method : String), ∀ e ∈ b.expectations, e.operation = s.operation method →
    c.matched ≠ some e.id
  /-- A verification of a method of the surface replies as if the call was not there, and leaves it
  as it is. -/
  uncounted : ∀ (method : String) (matcher : ArgumentMatcher) (times : Times) (d : Desk),
    d.book = b → ∀ l r, b.calls = l ++ c :: r →
      let verified := (s.verify method matcher times).run (Recorder.serve mode depth) d
      let without : Desk := { d with book := { b with calls := l ++ r } }
      verified.1 = ((s.verify method matcher times).run (Recorder.serve mode depth) without).1 ∧
        c ∈ verified.2.book.calls

/-- **A surface has nothing to do with the calls of other operations.** -/
theorem Surface.ignores_of_ne (mode : Mode) (depth : Nat) {s : Surface} {b : Book}
    (hb : b.Consistent) {c : RecordedCall} (hc : c ∈ b.calls)
    (hne : ∀ method, s.operation method ≠ c.operation) : s.Ignores mode depth b c where
  unlisted := by
    rintro d rfl
    refine ⟨_, congrArg Prod.fst s.run_calls, fun hlisted => ?_⟩
    obtain ⟨method, hmethod⟩ := s.startsWith_iff.mp (List.mem_filter.mp hlisted).2
    exact hne method hmethod
  unmatched := by
    intro method e he ho hmatched
    obtain ⟨x, hx, hid, hfit, -⟩ := hb.fits c hc e.id hmatched
    obtain rfl : x = e := List.inj_on_of_nodup_map hb.nodup_ids hx he hid
    exact hne method (ho.symm.trans hfit)
  uncounted := by
    rintro method matcher times d rfl l r hcalls verified without
    let k : Check := ⟨s.operation method, matcher, times⟩
    have hother : ¬ (c.operation = k.operation) := fun ho => hne method ho.symm
    refine ⟨?_, ?_⟩
    · have hsame : d.book.calls.filter (·.operation = k.operation) =
          (l ++ r).filter (·.operation = k.operation) := by
        rw [hcalls, List.filter_append, List.filter_cons_of_neg (by simpa using hother),
          List.filter_append]
      rw [s.run_verify, s.run_verify]
      calc k.reply d.book
          = k.reply { d.book with calls := d.book.calls.filter (·.operation = k.operation) } :=
            (k.reply_filter d.book).symm
        _ = k.reply { d.book with calls := (l ++ r).filter (·.operation = k.operation) } := by
            rw [hsame]
        _ = k.reply { d.book with calls := l ++ r } :=
            k.reply_filter { d.book with calls := l ++ r }
    · have hbook : verified.2.book = k.turn.step mode d.book := by
        rw [show verified = _ from s.handle.run_verify _ matcher times]
        exact Recorder.verify_book mode d
      have hcount : k.counts c = false := by
        rw [Bool.eq_false_iff]
        exact fun h => hother (Check.counts_iff.mp h).1
      rw [hbook, k.step_turn]
      refine List.mem_map.mpr ⟨c, hc, ?_⟩
      rw [Check.vouches, hcount, Bool.and_false, RecordedCall.mark_false]

/-! ### Whole runs -/

/-- A turn at a recorder that keeps in mind which surface a call is made through. -/
inductive ClientTurn where
  | call (capability method : String) (saturate : Bool) (arguments : List Json)
  /-- Any other turn, also a call that is made without a surface. -/
  | other (t : Turn)

namespace ClientTurn

/-- The turn, taken on the recorder of a handle. -/
def turn (h : Handle) : ClientTurn → Turn
  | call capability method saturate arguments =>
    .call saturate ((h.surface capability).operation method) arguments
  | other t => t

/-- The capability of the surface that a call is made through. -/
def capability? : ClientTurn → Option String
  | call capability .. => some capability
  | other _ => none

/-- If the turn is a call, it is made through the surface of a capability, or through a surface that
does not collide with it. -/
def KeepsClear (h : Handle) (capability : String) : ClientTurn → Prop
  | call c .. => c = capability ∨ ¬ h.Collide c capability
  | other (.call ..) => False
  | other _ => True

/-- The turn is the call that was recorded. -/
def Made (h : Handle) (t : ClientTurn) (c : RecordedCall) : Prop :=
  ∃ saturate, t.turn h = .call saturate c.operation c.arguments

/-- The turns of the recorded calls after one more turn: a call is recorded if its look-up ends. -/
def arrive (h : Handle) (b : Book) (past : List ClientTurn) (t : ClientTurn) : List ClientTurn :=
  match t.turn h with
  | .call saturate operation arguments =>
    if (b.record saturate operation arguments).1.isOk then past ++ [t] else past
  | .register .. => past
  | .verify .. => past
  | .reset => []

/-- The turns of the recorded calls, in the order of arrival. -/
def arrivals (mode : Mode) (h : Handle) :
    List ClientTurn → Book → List ClientTurn → List ClientTurn
  | [], _, past => past
  | t :: ts, b, past => arrivals mode h ts ((t.turn h).step mode b) (t.arrive h b past)

variable {h : Handle} {mode : Mode} {b : Book} {past : List ClientTurn} {t : ClientTurn}
  {c : RecordedCall}

/-- Whether a call is the one of a turn does not depend on its mark. -/
theorem forall₂_made_unmarked {cs : List RecordedCall} :
    List.Forall₂ (Made h) past (cs.map RecordedCall.unmarked) ↔ List.Forall₂ (Made h) past cs :=
  List.forall₂_map_right_iff

/-- **Each turn keeps the calls and their turns together.** -/
theorem forall₂_made_step (mode : Mode) (hmade : List.Forall₂ (Made h) past b.calls)
    (t : ClientTurn) :
    List.Forall₂ (Made h) (t.arrive h b past) ((t.turn h).step mode b).calls := by
  unfold arrive
  split
  · next saturate operation arguments hturn =>
    rw [hturn, Turn.step_call]
    -- the call that is added, whoever takes it, is the one of the turn
    have hadded : ∀ taker es, List.Forall₂ (Made h) (past ++ [t])
        (b.enter operation arguments taker es).calls := fun taker es =>
      List.rel_append hmade (.cons ⟨saturate, hturn⟩ .nil)
    rcases b.record_cases saturate operation arguments with
      ⟨c, hr⟩ | ⟨-, hr⟩ | ⟨l, e, r, -, -, -, hr⟩ <;> rw [hr]
    · exact hmade
    · exact hadded none _
    · exact hadded (some e.id) _
  · next hturn =>
    rw [hturn, Turn.step_register_calls]
    exact hmade
  · next operation matcher times hturn =>
    obtain ⟨calls, hb, hcalls⟩ := Turn.step_verify mode b operation matcher times
    rw [hturn, hb, ← forall₂_made_unmarked, hcalls, forall₂_made_unmarked]
    exact hmade
  · next hturn =>
    rw [hturn]
    exact .nil

theorem forall₂_made_play (hmade : List.Forall₂ (Made h) past b.calls) (ts : List ClientTurn) :
    List.Forall₂ (Made h) (arrivals mode h ts b past)
      (Turn.play mode (ts.map (·.turn h)) b).calls := by
  induction ts generalizing b past with
  | nil => exact hmade
  | cons t ts ih => exact ih (forall₂_made_step mode hmade t)

theorem mem_arrive {x : ClientTurn} (hx : x ∈ t.arrive h b past) : x ∈ past ∨ x = t := by
  unfold arrive at hx
  split at hx
  · split at hx
    · simpa using hx
    · exact .inl hx
  · exact .inl hx
  · exact .inl hx
  · cases hx

/-- The turns of the recorded calls are turns of the run. -/
theorem mem_arrivals {ts : List ClientTurn} {x : ClientTurn}
    (hx : x ∈ arrivals mode h ts b past) : x ∈ past ∨ x ∈ ts := by
  induction ts generalizing b past with
  | nil => exact .inl hx
  | cons t ts ih =>
    rcases ih hx with hpast | hts
    · rcases mem_arrive hpast with hpast | rfl
      · exact .inl hpast
      · exact .inr List.mem_cons_self
    · exact .inr (List.mem_cons_of_mem t hts)

/-- A call through a surface is one of a method of that surface. -/
theorem Made.operation_eq (hmade : t.Made h c) {capability : String}
    (hcapability : t.capability? = some capability) :
    ∃ method, (h.surface capability).operation method = c.operation := by
  obtain ⟨saturate, hturn⟩ := hmade
  cases t with
  | call capability' method saturate' arguments =>
    obtain rfl : capability' = capability := Option.some.inj hcapability
    rw [turn, Turn.call.injEq] at hturn
    exact ⟨method, hturn.2.1⟩
  | other => cases hcapability

/-- A call through a surface is of no operation of one that does not collide with it. -/
theorem Made.operation_ne (hmade : t.Made h c) {capability foreign : String}
    (hcapability : t.capability? = some foreign) (hclear : ¬ h.Collide capability foreign)
    (method : String) : (h.surface capability).operation method ≠ c.operation := by
  obtain ⟨method', hmethod'⟩ := hmade.operation_eq hcapability
  intro hmethod
  exact hclear (Handle.exists_operation_eq_iff.mp ⟨method, method', hmethod.trans hmethod'.symm⟩)

/-- A surface takes a call for its own that is made through it, and none that keeps clear of it. -/
theorem Made.startsWith_iff (hmade : t.Made h c) {capability : String}
    (hclear : t.KeepsClear h capability) :
    Text.startsWith c.operation ((h.surface capability).operation "") = true ↔
      t.capability? = some capability := by
  rw [Surface.startsWith_iff]
  refine ⟨?_, hmade.operation_eq⟩
  rintro ⟨method, hmethod⟩
  obtain ⟨saturate, hturn⟩ := id hmade
  cases t with
  | call c' method' saturate' arguments =>
    rcases hclear with rfl | hclear
    · rfl
    · exact absurd hmethod (hmade.operation_ne rfl (fun h => hclear h.symm) method)
  | other t =>
    obtain rfl : t = _ := hturn
    exact hclear.elim

end ClientTurn

namespace Book

variable {h : Handle} {b : Book} {made : List ClientTurn} {capability : String}

/-- The calls of a book that are made through the surface of a capability, by their turns. -/
def callsThrough (b : Book) (made : List ClientTurn) (capability : String) : List RecordedCall :=
  ((made.zip b.calls).filter (·.1.capability? = some capability)).map Prod.snd

theorem mem_callsThrough (hmade : List.Forall₂ (ClientTurn.Made h) made b.calls) {c : RecordedCall}
    (hc : c ∈ b.callsThrough made capability) :
    c ∈ b.calls ∧ ∃ t : ClientTurn, t.Made h c ∧ t.capability? = some capability := by
  obtain ⟨⟨t, x⟩, hp, rfl⟩ := List.mem_map.mp hc
  obtain ⟨hzip, hcapability⟩ := List.mem_filter.mp hp
  exact ⟨(List.of_mem_zip hzip).2, t, List.forall₂_zip hmade hzip, of_decide_eq_true hcapability⟩

/-- If all other calls keep clear of a surface, it lists exactly those that are made through it. -/
theorem filter_startsWith (hmade : List.Forall₂ (ClientTurn.Made h) made b.calls)
    (hclear : ∀ t ∈ made, t.KeepsClear h capability) :
    (b.calls.filter fun c => Text.startsWith c.operation ((h.surface capability).operation "")) =
      b.callsThrough made capability := by
  have hcalls : b.calls = (made.zip b.calls).map Prod.snd :=
    (List.map_snd_zip hmade.length_eq.ge).symm
  rw [callsThrough]
  conv_lhs => rw [hcalls, List.filter_map]
  refine congrArg (List.map Prod.snd) (List.filter_congr fun p hp => ?_)
  have ht := hclear p.1 (List.of_mem_zip hp).1
  rw [Function.comp_apply, Bool.eq_iff_iff, decide_eq_true_iff]
  exact (List.forall₂_zip hmade hp).startsWith_iff ht

end Book

/-- **When surfaces collide.** Two surfaces on a recorder have an operation in common if and only if
one of their capabilities with the separator is a beginning of the other one with the separator.

Any requests take turns, and a call through a surface begins with a turn on an operation of it. Take
any run, and say of any of its calls which surface it is made through. If two surfaces do not
collide, neither of them has to do with a recorded call that is made through the other: it does not
list it, none of its expectations has taken it, and none of its verifications counts it. If all
calls of the run are made through a surface or through ones that do not collide with it, the surface
lists exactly the recorded calls that are made through it, in the order of arrival. -/
theorem surfaces_collide_iff (mode : Mode) (h : Handle) :
    (∀ c₁ c₂, (∃ m₁ m₂, (h.surface c₁).operation m₁ = (h.surface c₂).operation m₂) ↔
      (c₁ ++ h.separator).toList <+: (c₂ ++ h.separator).toList ∨
        (c₂ ++ h.separator).toList <+: (c₁ ++ h.separator).toList) ∧
    (∀ (depth : Nat) (qs : List ((k : RequestKind) × Request k)) (diagnostics : List Diagnostic)
        (reported : Option TestError),
      let start : Desk := ⟨.empty, diagnostics, reported⟩
      (Recorder.serveEach mode depth qs start).book =
        Turn.play mode (Recorder.turnsEach mode depth qs start) .empty) ∧
    (∀ capability method saturate arguments,
      let call : ClientTurn := .call capability method saturate arguments
      ∃ q : Request .invocation,
        ((h.withSaturation saturate).surface capability).invoke method arguments =
          Recording.request q ∧
        ∀ depth d, ∃ inner, Recorder.turns mode depth q d = call.turn h :: inner) ∧
    ∀ ts : List ClientTurn,
      let b := Turn.play mode (ts.map (·.turn h)) .empty
      let made := ClientTurn.arrivals mode h ts .empty []
      List.Forall₂ (ClientTurn.Made h) made b.calls ∧
      (∀ c₁ c₂, ¬ h.Collide c₁ c₂ → ∀ depth,
        (∀ c ∈ b.callsThrough made c₂, (h.surface c₁).Ignores mode depth b c) ∧
        ∀ c ∈ b.callsThrough made c₁, (h.surface c₂).Ignores mode depth b c) ∧
      ∀ capability, (∀ t ∈ ts, t.KeepsClear h capability) → ∀ (depth : Nat) (d : Desk),
        d.book = b → (h.surface capability).calls.run (Recorder.serve mode depth) d =
          (.ok (b.callsThrough made capability), d) := by
  refine ⟨fun _ _ => Handle.exists_operation_eq_iff,
    fun depth qs _ _ => Recorder.serveEach_book mode depth qs _,
    fun capability method saturate arguments => ⟨_, rfl, fun depth d =>
      Recorder.turns_invoke mode depth saturate _ arguments d⟩, fun ts => ?_⟩
  intro b made
  have hb : b.Consistent := Book.Consistent.empty.play mode _
  have hmade : List.Forall₂ (ClientTurn.Made h) made b.calls := ClientTurn.forall₂_made_play .nil ts
  have hignores : ∀ {c₁ c₂}, ¬ h.Collide c₁ c₂ → ∀ depth, ∀ c ∈ b.callsThrough made c₂,
      (h.surface c₁).Ignores mode depth b c := by
    intro c₁ c₂ hclear depth c hc
    obtain ⟨hmem, t, ht, hcapability⟩ := Book.mem_callsThrough hmade hc
    exact Surface.ignores_of_ne mode depth hb hmem (ht.operation_ne hcapability hclear)
  refine ⟨hmade, fun c₁ c₂ hclear depth =>
    ⟨hignores hclear depth, hignores (fun h => hclear h.symm) depth⟩, ?_⟩
  rintro capability hclear depth d hd
  have hkept : ∀ t ∈ made, t.KeepsClear h capability := by
    intro t ht
    rcases ClientTurn.mem_arrivals ht with hpast | hts
    · cases hpast
    · exact hclear t hts
  rw [Surface.run_calls, hd, Book.filter_startsWith hmade hkept]

/-- An expectation of one surface, and calls through two. -/
def ClientTurn.twoSurfaces : List ClientTurn :=
  [.other (.register true "users::add" ⟨[.any]⟩ (.returns .null) .anyNumber),
    .call "users" "add" true [.int 1], .call "orders" "place" true [.int 2]]

/-- A trailing colon is enough to collide. Of the calls through two surfaces that do not, the first
surface lists its own one and has nothing to do with the other one. -/
theorem surfaces_collide_iff_two :
    let h : Handle := ⟨.lenient, true, "::"⟩
    let b := Turn.play .lenient (ClientTurn.twoSurfaces.map (·.turn h)) .empty
    (∃ m₁ m₂, (h.surface "a").operation m₁ = (h.surface "a:").operation m₂) ∧
      (h.surface "users").calls.run (Recorder.serve .lenient 0) (.ofBook b) =
        (.ok [⟨0, "users::add", [.int 1], some 0, false⟩], .ofBook b) ∧
      (h.surface "users").Ignores .lenient 0 b ⟨1, "orders::place", [.int 2], none, false⟩ := by
  intro h b
  let made := ClientTurn.arrivals .lenient h ClientTurn.twoSurfaces .empty []
  obtain ⟨hiff, -, -, hruns⟩ := surfaces_collide_iff .lenient h
  obtain ⟨-, hignores, hlists⟩ := hruns ClientTurn.twoSurfaces
  have hcalls : made.zip b.calls =
      [(.call "users" "add" true [.int 1], ⟨0, "users::add", [.int 1], some 0, false⟩),
        (.call "orders" "place" true [.int 2],
          ⟨1, "orders::place", [.int 2], none, false⟩)] := rfl
  have hapart : ¬ h.Collide "users" "orders" := by decide
  have hclear : ∀ t ∈ ClientTurn.twoSurfaces, t.KeepsClear h "users" := by
    simp only [ClientTurn.twoSurfaces, List.forall_mem_cons]
    exact ⟨trivial, .inl rfl, .inr fun hcollide => hapart hcollide.symm, nofun⟩
  have husers : b.callsThrough made "users" =
      [⟨0, "users::add", [.int 1], some 0, false⟩] := by
    rw [Book.callsThrough, hcalls]
    rfl
  have horders : b.callsThrough made "orders" =
      [⟨1, "orders::place", [.int 2], none, false⟩] := by
    rw [Book.callsThrough, hcalls]
    rfl
  refine ⟨(hiff "a" "a:").mpr (by decide), ?_, ?_⟩
  · rw [← husers]
    exact hlists "users" hclear 0 (.ofBook b) rfl
  · exact (hignores "users" "orders" hapart 0).1 _ (horders ▸ List.mem_singleton_self _)

end TestDouble
