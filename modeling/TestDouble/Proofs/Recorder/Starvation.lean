import TestDouble.Proofs.Matching.Overlap
import TestDouble.Proofs.Recorder.Bookkeeping
import TestDouble.Proofs.Recorder.Capacity

/-!
# Starved expectations

A call that is made again and again reaches an expectation once the earlier expectations that it
suits are full, and never if one of them cannot be filled. `reached_iff_rivals_limited` says so for
every book a recorder can have while caps are enforced, and counts the calls that go elsewhere
first. A strict recorder refuses registrations that an uncapped expectation would starve
(`Book.Apart`), so there only an expectation that forbids calls can starve another.
-/

namespace TestDouble

/-- No expectation without a cap overlaps a later one of its operation. -/
def Book.Apart (b : Book) : Prop :=
  b.expectations.Pairwise fun x y => x.operation = y.operation → x.times.isCapped = false →
    x.matcher.overlaps y.matcher = .ok false

/-- **A strict recorder keeps its expectations apart**, while caps are enforced. -/
theorem Turn.step_apart {b : Book} {t : Turn} (ht : t.Saturates) (h : b.Apart) :
    (t.step .strict b).Apart := by
  refine step_pairwise .strict (fun _ _ hxy => hxy) (fun _ _ hxy => hxy) ?_ h
  rintro saturate operation matcher outcome times rfl hshadows x hx ho hcap
  obtain rfl : saturate = true := ht
  exact Expectation.shadows_eq_false_iff.mp (hshadows rfl x hx) ho hcap

namespace Book

variable {b : Book} {before after : List Expectation} {e : Expectation} {operation : String}
  {arguments : List Json}

/-- The earlier expectations that a call suits can be filled, unless one of them has no cap other
than zero. -/
theorem Plain.fillable (h : b.Plain) {l : List Expectation} (hl : ∀ e ∈ l, e ∈ b.expectations)
    (hlimited : ∀ x ∈ rivals operation arguments l, x.Limited) :
    Fillable operation arguments l :=
  ⟨fun e he => h.total e (hl e he) arguments, hlimited⟩

/-- An expectation is reached when the earlier ones are full. -/
theorem again_reaches (h : Fillable operation arguments before)
    (hes : b.expectations = before ++ e :: after)
    (he : e.accepts true operation arguments = .ok true) :
    (b.again operation arguments (spare operation arguments before + 1)).lastTaker = some e.id := by
  obtain ⟨l', hfull, hrefuse, -⟩ := fill h hes
  rw [again_add]
  exact (again_one hfull hrefuse he).2

/-- **An earlier expectation without a cap other than zero keeps the call to itself**, once those
before it are full. -/
theorem again_starves (h : b.Plain) (hes : b.expectations = before ++ e :: after)
    (hrival : ∃ x ∈ rivals operation arguments before, ¬ x.Limited) :
    ∃ x ∈ rivals operation arguments before, ¬ x.Limited ∧ ∃ N,
      (∀ n ≥ N, (b.again operation arguments (n + 1)).lastTaker = some x.id) ∧
      ∀ n < N, ∃ y ∈ rivals operation arguments before,
        (b.again operation arguments (n + 1)).lastTaker = some y.id := by
  obtain ⟨y, hy, hylim⟩ := hrival
  -- the first one that cannot be filled gets the calls once those before it are full
  cases hfind : before.find? fun x => x.Suits operation arguments ∧ ¬ x.Limited with
  | none =>
    simp only [List.find?_eq_none, decide_eq_true_eq] at hfind
    obtain ⟨hy, hs⟩ := mem_rivals.mp hy
    exact absurd ⟨hs, hylim⟩ (hfind y hy)
  | some x =>
    obtain ⟨hx, l, r, rfl, hfirst⟩ := List.find?_eq_some_iff_append.mp hfind
    simp only [decide_eq_true_eq, Bool.not_eq_true', decide_eq_false_iff_not] at hx hfirst
    have hl : ∀ z ∈ l, z ∈ b.expectations := fun z hz => by simp [hes, hz]
    have hlimited : ∀ z ∈ rivals operation arguments l, z.Limited := by
      intro z hz
      obtain ⟨hz, hs⟩ := mem_rivals.mp hz
      by_contra hnot
      exact hfirst z hz ⟨hs, hnot⟩
    rw [List.append_assoc, List.cons_append] at hes
    obtain ⟨l', hfull, hrefuse, htakers⟩ := fill (h.fillable hl hlimited) hes
    refine ⟨x, mem_rivals.mpr ⟨by simp, hx.1⟩, hx.2, spare operation arguments l, ?_, ?_⟩
    · intro n hn
      obtain ⟨k, rfl⟩ := Nat.exists_eq_add_of_le hn
      rw [Nat.add_assoc, again_add]
      exact again_of_not_limited hfull hrefuse hx.1 hx.2 k
    · intro n hn
      obtain ⟨z, hz, hid⟩ := htakers n hn
      obtain ⟨hz, hs⟩ := mem_rivals.mp hz
      exact ⟨z, mem_rivals.mpr ⟨List.mem_append_left _ hz, hs⟩, hid⟩

/-- **A repeated call reaches an expectation** if and only if the earlier ones that it suits can be
filled. -/
theorem again_reaches_iff (h : b.Plain) (hc : b.Consistent)
    (hes : b.expectations = before ++ e :: after)
    (he : e.accepts true operation arguments = .ok true) :
    (∃ n, (b.again operation arguments (n + 1)).lastTaker = some e.id) ↔
      ∀ x ∈ rivals operation arguments before, x.Limited := by
  have hne : ∀ x ∈ rivals operation arguments before, x.id ≠ e.id := fun x hx =>
    hc.ne_of_split hes x (.inl (mem_rivals.mp hx).1)
  constructor
  · rintro ⟨n, hn⟩
    by_contra hnot
    obtain ⟨x, hmem, -, N, hge, hlt⟩ := again_starves h hes (by simpa using hnot)
    rcases Nat.lt_or_ge n N with hearly | hlate
    · obtain ⟨y, hy, hid⟩ := hlt n hearly
      exact hne y hy (Option.some.inj (hid.symm.trans hn))
    · exact hne x hmem (Option.some.inj ((hge n hlate).symm.trans hn))
  · intro hlimited
    have hl : ∀ x ∈ before, x ∈ b.expectations := fun x hx => hes ▸ List.mem_append_left _ hx
    exact ⟨_, again_reaches (h.fillable hl hlimited) hes he⟩

end Book

/-- A rival that has no cap other than zero but is capped forbids calls. -/
theorem Expectation.forbidsCalls_of_capped {e : Expectation} (hlimited : ¬ e.Limited)
    (hcapped : e.times.isCapped = true) : e.times.forbidsCalls = true := by
  obtain ⟨m, hm⟩ := Option.isSome_iff_exists.mp hcapped
  have : m = 0 := Nat.eq_zero_of_not_pos fun hpos => hlimited ⟨m, hm, hpos⟩
  rw [Times.forbidsCalls, hm, this]
  rfl

namespace Book

variable {b : Book} {before after : List Expectation} {e : Expectation} {arguments : List Json}

/-- In a strict recorder the earlier expectations that accept a call of a later one are capped. -/
theorem Apart.isCapped (h : b.Apart) (hes : b.expectations = before ++ e :: after)
    (ha : e.matcher.accepts arguments = .ok true) (he : e.matcher.Respectful) {x : Expectation}
    (hx : x ∈ rivals e.operation arguments before) (hx' : x.matcher.Respectful)
    (hc : x.matcher.Comparable e.matcher) : x.times.isCapped = true := by
  obtain ⟨hmem, ho, hxa⟩ := mem_rivals.mp hx
  rw [Apart, hes, List.pairwise_append] at h
  have hapart := h.2.2 x hmem e List.mem_cons_self ho
  rw [← Bool.not_eq_false]
  intro hcap
  have := hapart hcap
  rw [ArgumentMatcher.overlaps_of_accepts hc hx' he hxa ha] at this
  cases this

/-- In a strict recorder only an expectation that forbids calls keeps a call from a later one. -/
theorem Apart.starves (h : b.Apart) (hplain : b.Plain) (hconsistent : b.Consistent)
    (hes : b.expectations = before ++ e :: after)
    (he : e.accepts true e.operation arguments = .ok true) (hrespects : e.matcher.Respectful)
    (hcomparable : ∀ x ∈ rivals e.operation arguments before,
      x.matcher.Respectful ∧ x.matcher.Comparable e.matcher)
    (hnever : ∀ n, (b.again e.operation arguments (n + 1)).lastTaker ≠ some e.id) :
    ∃ x ∈ rivals e.operation arguments before, x.times.forbidsCalls = true ∧ ∃ N, ∀ n ≥ N,
      (b.again e.operation arguments (n + 1)).lastTaker = some x.id := by
  have hrival : ∃ x ∈ rivals e.operation arguments before, ¬ x.Limited := by
    by_contra hnot
    obtain ⟨n, hn⟩ := (again_reaches_iff hplain hconsistent hes he).mpr (by simpa using hnot)
    exact hnever n hn
  obtain ⟨x, hx, hlimited, N, hge, -⟩ := again_starves hplain hes hrival
  obtain ⟨hx', hc⟩ := hcomparable x hx
  have hcapped : x.times.isCapped = true :=
    h.isCapped hes (Expectation.accepts_eq_true_iff.mp he).2.2 hrespects hx hx' hc
  exact ⟨x, hx, Expectation.forbidsCalls_of_capped hlimited hcapped, N, hge⟩

end Book

/-! ### Recorders whose handles enforce caps -/

/-- What holds of the books of recorders whose handles all enforce caps. -/
structure Book.Capped (mode : Mode) (b : Book) : Prop where
  consistent : b.Consistent
  withinCaps : b.WithinCaps
  apart : mode = .strict → b.Apart

theorem Book.Capped.empty (mode : Mode) : Book.empty.Capped mode :=
  ⟨.empty, by simp [Book.WithinCaps, Book.empty], fun _ => List.Pairwise.nil⟩

theorem Book.Capped.step {mode : Mode} {b : Book} {t : Turn} (ht : t.Saturates)
    (h : b.Capped mode) : (t.step mode b).Capped mode where
  consistent := h.consistent.step mode t
  withinCaps := Turn.step_withinCaps mode ht h.withinCaps
  apart := by
    rintro rfl
    exact Turn.step_apart ht (h.apart rfl)

namespace Recorder

variable {mode : Mode} {operation : String} {arguments : List Json}

/-- The book after some of the turns that requests take. -/
theorem turnsEach_capped (depth : Nat) {qs : List ((k : RequestKind) × Request k)}
    (hqs : ∀ q ∈ qs, Request.Within Turn.Saturates q.1 q.2) (diagnostics : List Diagnostic)
    (reported : Option TestError) {ts : List Turn}
    (hts : ts <+: turnsEach mode depth qs ⟨.empty, diagnostics, reported⟩) :
    (Turn.play mode ts .empty).Capped mode := by
  have h : Follows mode Turn.Saturates ⟨.empty, diagnostics, reported⟩
      (serveEach mode depth qs ⟨.empty, diagnostics, reported⟩)
      (turnsEach mode depth qs ⟨.empty, diagnostics, reported⟩) :=
    serveEach_follows depth hqs (by simp [Book.Within, Book.empty])
  exact Turn.play_invariant (fun _ _ ht hb => hb.step ht)
    (fun t ht => (h.within t (hts.subset ht)).allowed) (.empty mode)

theorem serveEach_capped (depth : Nat) {qs : List ((k : RequestKind) × Request k)}
    (hqs : ∀ q ∈ qs, Request.Within Turn.Saturates q.1 q.2) (diagnostics : List Diagnostic)
    (reported : Option TestError) :
    (serveEach mode depth qs ⟨.empty, diagnostics, reported⟩).book.Capped mode := by
  rw [serveEach_book]
  exact turnsEach_capped depth hqs diagnostics reported List.prefix_rfl

/-- The desk after a handle that enforces caps has made the same call `n` times. -/
def repeated (mode : Mode) (depth : Nat) (operation : String) (arguments : List Json) (n : Nat)
    (d : Desk) : Desk :=
  serveEach mode depth (List.replicate n ⟨_, .invoke true operation arguments⟩) d

/-- The id of the expectation that the call goes to after it has been made `n` times. -/
def taker (mode : Mode) (depth : Nat) (operation : String) (arguments : List Json) (n : Nat)
    (d : Desk) : Option Nat :=
  (repeated mode depth operation arguments (n + 1) d).book.lastTaker

theorem repeated_book (depth : Nat) {d : Desk} (hd : d.book.Plain) (n : Nat) :
    (repeated mode depth operation arguments n d).book = d.book.again operation arguments n := by
  induction n generalizing d with
  | zero => rfl
  | succ n ih =>
    have hb : (serve mode depth (.invoke true operation arguments) d).2.book =
        (d.book.record true operation arguments).2 :=
      serve_request_book depth (.call true operation arguments) hd.silent
    rw [Book.again, ← hb, ← ih (hb ▸ hd.record true operation arguments)]
    rfl

end Recorder

/-- **Which expectations can be starved.** In any book that a recorder can have whose handles all
enforce caps, repeating a call that suits an expectation reaches it if and only if every earlier
expectation that the call suits has a cap other than zero. Then the calls that go elsewhere first
fill these expectations up. On a strict recorder the earlier expectations are all capped, unless
predicates hide it from the check, so only one that forbids calls can keep the call to itself. -/
theorem reached_iff_rivals_limited (mode : Mode) (depth : Nat) (diagnostics : List Diagnostic)
    (reported : Option TestError) (qs : List ((k : RequestKind) × Request k))
    (hqs : ∀ q ∈ qs, Request.Within Turn.Saturates q.1 q.2)
    (hplain : (Recorder.serveEach mode depth qs ⟨.empty, diagnostics, reported⟩).book.Plain)
    (before after : List Expectation) (e : Expectation)
    (hes : (Recorder.serveEach mode depth qs ⟨.empty, diagnostics, reported⟩).book.expectations =
      before ++ e :: after)
    (arguments : List Json) (hx : e.isExhausted true = false)
    (ha : e.matcher.accepts arguments = .ok true) :
    let d := Recorder.serveEach mode depth qs ⟨.empty, diagnostics, reported⟩
    let taker := fun n => Recorder.taker mode depth e.operation arguments n d
    let earlier := rivals e.operation arguments before
    let others := (earlier.map Expectation.room).sum
    (∀ n, (Recorder.repeated mode depth e.operation arguments n d).book.calls.length =
        d.book.calls.length + n) ∧
      ((∃ n, taker n = some e.id) ↔ ∀ x ∈ earlier, x.Limited) ∧
      ((∀ x ∈ earlier, x.Limited) →
        (∀ x ∈ earlier, ∀ m ∈ x.times.max, x.consumed ≤ m) ∧ taker others = some e.id ∧
          ∀ n < others, ∃ x ∈ earlier, taker n = some x.id ∧ x.id ≠ e.id) ∧
      (mode = .strict → e.matcher.Respectful →
        ∀ x ∈ earlier, x.matcher.Respectful → x.matcher.Comparable e.matcher →
          x.times.isCapped = true) ∧
      (mode = .strict → e.matcher.Respectful →
        (∀ x ∈ earlier, x.matcher.Respectful ∧ x.matcher.Comparable e.matcher) →
        (∀ n, taker n ≠ some e.id) →
        ∃ x ∈ earlier, x.times.forbidsCalls = true ∧ ∃ N, ∀ n ≥ N, taker n = some x.id) := by
  intro d taker earlier others
  obtain ⟨hconsistent, hcaps, hapart⟩ : d.book.Capped mode :=
    Recorder.serveEach_capped depth hqs diagnostics reported
  have he : e.accepts true e.operation arguments = .ok true :=
    Expectation.accepts_eq_true_iff.mpr ⟨rfl, hx, ha⟩
  have hbefore : ∀ x ∈ before, x ∈ d.book.expectations := fun x hx =>
    hes ▸ List.mem_append_left _ hx
  have hagain : ∀ n, (Recorder.repeated mode depth e.operation arguments n d).book =
      d.book.again e.operation arguments n := Recorder.repeated_book depth hplain
  have htaker : ∀ n, taker n = (d.book.again e.operation arguments (n + 1)).lastTaker := fun n =>
    congrArg Book.lastTaker (hagain (n + 1))
  simp only [htaker, hagain]
  refine ⟨fun n => Book.length_again hplain _ _ n,
    Book.again_reaches_iff hplain hconsistent hes he, fun h => ⟨?_, ?_, ?_⟩, ?_, ?_⟩
  · intro x hmem m hm
    obtain ⟨k, hk, hpos⟩ := h x hmem
    obtain rfl : k = m := Option.some.inj (hk.symm.trans hm)
    exact hcaps x (hbefore x (mem_rivals.mp hmem).1) k hm hpos
  · exact Book.again_reaches (hplain.fillable hbefore h) hes he
  · intro n hn
    obtain ⟨-, -, -, htakers⟩ := Book.fill (hplain.fillable hbefore h) hes
    obtain ⟨x, hmem, hid⟩ := htakers n hn
    have hne : x.id ≠ e.id := hconsistent.ne_of_split hes x (.inl (mem_rivals.mp hmem).1)
    exact ⟨x, hmem, hid, hne⟩
  · intro hstrict he' x hmem hx' hc
    exact (hapart hstrict).isCapped hes ha he' hmem hx' hc
  · intro hstrict he' hcomparable hnever
    exact (hapart hstrict).starves hplain hconsistent hes he he' hcomparable hnever

/-- A capped expectation before an uncapped one, and a call that has gone to the first. -/
def Recorder.fillingRun : List ((k : RequestKind) × Request k) :=
  [⟨_, .register true "op" ⟨[.exact (.str "x")]⟩ (.returns .null) (.exactly 2)⟩,
    ⟨_, .register true "op" ⟨[.any]⟩ (.returns (.bool true)) .anyNumber⟩,
    ⟨_, .invoke true "op" [.str "x"]⟩]

/-- One more call fills the cap, and the one after it reaches the second expectation. -/
theorem reached_iff_rivals_limited_filling :
    let d := Recorder.serveEach .strict 1 Recorder.fillingRun ⟨.empty, [], none⟩
    Recorder.taker .strict 1 "op" [.str "x"] 0 d = some 0 ∧
      Recorder.taker .strict 1 "op" [.str "x"] 1 d = some 1 := by
  have hqs : ∀ q ∈ Recorder.fillingRun, Request.Within Turn.Saturates q.1 q.2 := by
    simp only [Recorder.fillingRun, List.forall_mem_cons]
    exact ⟨.register rfl (.returns _), .register rfl (.returns _), .invoke rfl, by simp⟩
  have hes : (Recorder.serveEach .strict 1 Recorder.fillingRun
      ⟨.empty, [], none⟩).book.expectations =
      [⟨0, "op", ⟨[.exact (.str "x")]⟩, .returns .null, .exactly 2, 1⟩,
        ⟨1, "op", ⟨[.any]⟩, .returns (.bool true), .anyNumber, 0⟩] := rfl
  have hplain : (Recorder.serveEach .strict 1 Recorder.fillingRun
      ⟨.empty, [], none⟩).book.Plain := by
    constructor
    · simp only [hes, List.forall_mem_cons]
      exact ⟨ArgumentMatcher.total_of_parts (by simp [Matcher.accepts]),
        ArgumentMatcher.total_of_parts (by simp [Matcher.accepts]), by simp⟩
    · simp only [Book.Silent, hes, List.forall_mem_cons]
      exact ⟨fun _ _ => ⟨_, rfl⟩, fun _ _ => ⟨_, rfl⟩, by simp⟩
  obtain ⟨-, -, hfill, -⟩ := reached_iff_rivals_limited .strict 1 [] none Recorder.fillingRun hqs
    hplain [_] [] _ hes [.str "x"] rfl rfl
  obtain ⟨-, hlast, hfirst⟩ := hfill (by decide)
  obtain ⟨x, hx, hid, -⟩ := hfirst 0 (by decide)
  obtain rfl := List.mem_singleton.mp (mem_rivals.mp hx).1
  exact ⟨hid, hlast⟩

end TestDouble
