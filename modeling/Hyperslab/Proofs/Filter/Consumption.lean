/-
# `Hyperslab.Proofs.Filter.Consumption` — using up a stream

Whoever wants all records asks and takes until there is none, and goes on after errors; or asks
for one result after the other until none comes.  As written these loops have no bound, and so
they are stated here (`Drains`, `Collects`), with no way to be stuck: a record that was found must
be there to be taken.  `drain` and `collect` go as many rounds as there can be results, and the
loops need no more.

The reason is that every round gives one result, and that a result is paid for with a record that
was read or held (`Leads.length_given_le`).  An error is no exception, because the cursor has
moved before there is an error.  So the loops end, wherever errors are, and what they gave is what
the records come to, one after the other (`usedUp_of_open?`).
-/
import Hyperslab.CommandLine.Execution
import Hyperslab.Proofs.Filter.Deliveries

namespace Hyperslab.RecordStream

section

variable [PatternCompiler] {ρ σ : Type} [FieldReader ρ] {s t u : RecordStream ρ σ}

/-! ## The loops -/

/-- Asking and taking until there is nothing left, and going on after errors: the results, and the
stream that is left. -/
inductive Drains :
    RecordStream ρ σ → List (Except StreamError (IndexedRecord ρ)) → RecordStream ρ σ → Prop where
  | ended {s t : RecordStream ρ σ} (asked : s.hasNext = (.ok false, t)) : Drains s [] t
  | failed {s t u : RecordStream ρ σ} {e : StreamError}
      {rest : List (Except StreamError (IndexedRecord ρ))} (asked : s.hasNext = (.error e, t))
      (later : Drains t rest u) : Drains s (.error e :: rest) u
  | found {s t t' u : RecordStream ρ σ} {r : IndexedRecord ρ}
      {rest : List (Except StreamError (IndexedRecord ρ))} (asked : s.hasNext = (.ok true, t))
      (taken : t.takeIndexed = (.ok r, t')) (later : Drains t' rest u) : Drains s (.ok r :: rest) u

/-- Asking for one result after the other, until there is none. -/
inductive Collects : RecordStream ρ σ → List (Except StreamError ρ) → RecordStream ρ σ → Prop where
  | ended {s t : RecordStream ρ σ} (asked : s.next = (none, t)) : Collects s [] t
  | result {s t u : RecordStream ρ σ} {x : Except StreamError ρ} {rest : List (Except StreamError ρ)}
      (asked : s.next = (some x, t)) (later : Collects t rest u) : Collects s (x :: rest) u

/-- The loop is what is computed, if enough rounds are made. -/
theorem Drains.drainWithin_eq {results : List (Except StreamError (IndexedRecord ρ))}
    (h : Drains s results t) {steps : Nat} (enough : results.length < steps) :
    s.drainWithin steps = (results, t) := by
  induction h generalizing steps with
  | ended asked =>
    obtain ⟨steps, rfl⟩ := Nat.exists_eq_add_one.2 enough
    rw [drainWithin, asked]
  | failed asked _ ih =>
    obtain ⟨steps, rfl⟩ := Nat.exists_eq_add_one.2 (Nat.zero_lt_of_lt enough)
    rw [drainWithin, asked]
    dsimp only
    rw [ih (Nat.lt_of_succ_lt_succ enough)]
  | found asked taken _ ih =>
    obtain ⟨steps, rfl⟩ := Nat.exists_eq_add_one.2 (Nat.zero_lt_of_lt enough)
    rw [drainWithin, asked]
    dsimp only
    rw [taken]
    dsimp only
    rw [ih (Nat.lt_of_succ_lt_succ enough)]

theorem Collects.collectWithin_eq {results : List (Except StreamError ρ)}
    (h : Collects s results t) {steps : Nat} (enough : results.length < steps) :
    s.collectWithin steps = (results, t) := by
  induction h generalizing steps with
  | ended asked =>
    obtain ⟨steps, rfl⟩ := Nat.exists_eq_add_one.2 enough
    rw [collectWithin, asked]
  | result asked _ ih =>
    obtain ⟨steps, rfl⟩ := Nat.exists_eq_add_one.2 (Nat.zero_lt_of_lt enough)
    rw [collectWithin, asked]
    dsimp only
    rw [ih (Nat.lt_of_succ_lt_succ enough)]

/-- Both loops have the same results, and one of them without the indices. -/
theorem Drains.collects {results : List (Except StreamError (IndexedRecord ρ))}
    (h : Drains s results t) : Collects s (results.map (Except.map IndexedRecord.record)) t := by
  induction h with
  | ended asked =>
    refine .ended ?_
    rw [next, asked]
  | failed asked _ ih =>
    refine .result ?_ ih
    rw [next, asked]
    rfl
  | found asked taken _ ih =>
    refine .result ?_ ih
    rw [next, asked]
    dsimp only
    rw [takeRecord, taken]

/-! ## The end -/

/-- Nothing is held, and nothing is left to read. -/
structure Spent (s : RecordStream ρ σ) : Prop where
  held : s.held = none
  read : s.remaining = 0

namespace Spent

theorem hasNext (h : s.Spent) : s.hasNext = (.ok false, s) := by
  rw [hasNext_of_not_held h.held, h.read]
  rfl

theorem next (h : s.Spent) : s.next = (none, s) := by
  rw [RecordStream.next, h.hasNext]

/-- However often a spent stream is asked, there is no next record. -/
theorem run (h : s.Spent) {pulls : List Pull} (asking : ∀ c ∈ pulls, c = .hasNext ∨ c = .next) :
    s.run pulls = (pulls.map (Pull.shows none false), s) := by
  induction pulls with
  | nil => rfl
  | cons c rest ih =>
    obtain ⟨first, others⟩ := List.forall_mem_cons.1 asking
    have answer : s.pull c = (c.shows none false, s) := by
      obtain rfl | rfl := first
      · rw [pull, h.hasNext]
        rfl
      · rw [pull, h.next]
        rfl
    rw [RecordStream.run, answer]
    dsimp only
    rw [ih others]
    rfl

end Spent

/-! ## The number of rounds -/

omit [FieldReader ρ] in
theorem resultBound_eq (s : RecordStream ρ σ) :
    s.resultBound = s.source.count - s.cursor + s.held.toList.length := by
  unfold resultBound remaining
  cases s.held <;> rfl

namespace Leads

variable {given : List (Except StreamError (IndexedRecord ρ))}

/-- Whatever was given, so many results fewer are possible. -/
theorem length_given_le (h : Leads s t given) (begun : s.cursor ≤ s.source.count) :
    given.length + t.resultBound ≤ s.resultBound := by
  have forward := h.forward
  have within := h.within begun
  have fewer : ((between s t).filterMap s.fate?).length ≤ t.cursor - s.cursor := by
    have all := List.length_filterMap_le s.fate? (between s t)
    rwa [between, List.length_range'] at all
  have balance := congrArg List.length h.books
  rw [List.length_append, List.length_append, List.length_map, List.length_map] at balance
  rw [resultBound_eq, resultBound_eq, h.count_eq]
  omega

theorem resultBound_lt {result : Except StreamError (IndexedRecord ρ)}
    (h : Leads s t [result]) (begun : s.cursor ≤ s.source.count) :
    t.resultBound < s.resultBound := by
  have one := h.length_given_le begun
  rw [List.length_singleton] at one
  omega

end Leads

/-- The loop ends, keeps the books, and leaves nothing. -/
theorem exists_drains (sound : s.patterns.Sound) (begun : s.cursor ≤ s.source.count) :
    ∃ results t, Drains s results t ∧ Leads s t results ∧ t.Spent := by
  induction bound : s.resultBound using Nat.strongRecOn generalizing s with
  | ind n ih =>
    subst bound
    obtain ⟨leads, found, ended⟩ := asks_hasNext sound begun
    cases asked : s.hasNext with
    | mk answer t =>
      rw [asked] at leads found ended
      cases answer with
      | error e =>
        have fewer : t.resultBound < s.resultBound := leads.resultBound_lt begun
        obtain ⟨rest, u, later, others, spent⟩ :=
          ih _ fewer leads.sound (leads.begun begun) rfl
        exact ⟨_, u, .failed asked later, leads.trans others, spent⟩
      | ok b =>
        have holds : t.held.isSome = b := found b rfl
        cases b with
        | false =>
          have last : t.cursor = max s.cursor s.source.count := ended rfl
          have count : t.source.count = s.source.count := leads.count_eq
          refine ⟨_, t, .ended asked, leads, ?_, ?_⟩
          · exact Option.isNone_iff_eq_none.1 (Option.isSome_eq_false_iff.1 holds)
          · rw [remaining, count, last]
            omega
        | true =>
          obtain ⟨r, held⟩ := Option.isSome_iff_exists.1 holds
          have taken := takeIndexed_of_held held
          -- asking gives nothing yet; the record is given when it is taken
          have both : Leads s { t with held := none } [.ok r] := by
            have take := Leads.take (s := t) leads.sound
            rw [held] at take
            exact leads.trans take
          obtain ⟨rest, u, later, others, spent⟩ :=
            ih _ (both.resultBound_lt begun) both.sound (both.begun begun) rfl
          exact ⟨_, u, .found asked taken later, both.trans others, spent⟩

/-! ## From the beginning -/

/-- What the records of the source come to, in order, without those that are rejected. -/
def fates (s : RecordStream ρ σ) : List (Except StreamError (IndexedRecord ρ)) :=
  (List.range s.source.count).filterMap s.fate?

/-- The records that pass are those that can be read and are judged to be true, wherever they
are. -/
theorem mem_successes_fates (s : RecordStream ρ σ) {r : IndexedRecord ρ} :
    r ∈ successes s.fates ↔ r.index < s.source.count ∧ s.content r.index = .ok r.record ∧
      s.verdict r.record = .ok true := by
  unfold successes fates
  constructor
  · intro mem
    obtain ⟨result, among, success⟩ := List.mem_filterMap.1 mem
    obtain ⟨i, below, fate⟩ := List.mem_filterMap.1 among
    cases result with
    | error e => cases success
    | ok r' =>
      cases success
      obtain ⟨rfl, read, passed⟩ := of_fate?_eq_ok fate
      exact ⟨List.mem_range.1 below, read, passed⟩
  · rintro ⟨below, read, passed⟩
    have fate : s.fate? r.index = some (.ok r) := by
      rw [fate?, read]
      dsimp only
      rw [passed]
    exact List.mem_filterMap.2
      ⟨.ok r, List.mem_filterMap.2 ⟨r.index, List.mem_range.2 below, fate⟩, rfl⟩

/-- All ways of using up a stream end, and agree. -/
structure UsedUp (s : RecordStream ρ σ) : Prop where
  /-- Each record is reported once at its place if it passes or fails, and not otherwise. -/
  drains : Drains s s.fates s.drain.2
  collects : Collects s (s.fates.map (Except.map IndexedRecord.record)) s.drain.2
  drain : s.drain.1 = s.fates
  collect : s.collect = (s.fates.map (Except.map IndexedRecord.record), s.drain.2)
  delivered : ∀ r, r ∈ successes s.fates ↔ r.index < s.source.count ∧
    s.content r.index = .ok r.record ∧ s.verdict r.record = .ok true
  increasing : (successes s.fates).Pairwise fun a b => a.index < b.index
  /-- Asked again, the stream has nothing more. -/
  stays : ∀ pulls : List Pull, (∀ c ∈ pulls, c = .hasNext ∨ c = .next) →
    s.drain.2.run pulls = (pulls.map (Pull.shows none false), s.drain.2)

theorem Fresh.usedUp (fresh : s.Fresh) : s.UsedUp := by
  have begun := fresh.begun
  obtain ⟨results, t, drains, leads, spent⟩ := exists_drains fresh.sound begun
  have rounds : results.length < s.resultBound + 1 :=
    Nat.lt_succ_of_le (Nat.le_of_add_right_le (leads.length_given_le begun))
  have drained : s.drain = (results, t) := drains.drainWithin_eq rounds
  have collected : s.collect = (results.map (Except.map IndexedRecord.record), t) :=
    drains.collects.collectWithin_eq (by rwa [List.length_map])
  have all : results = s.fates := by
    have given := leads.given_append fresh
    have last : t.cursor = s.source.count := by
      have read := spent.read
      have within := leads.within begun
      rw [remaining, leads.count_eq] at read
      omega
    rw [spent.held, last] at given
    exact (List.append_nil _).symm.trans given
  rw [all] at drains drained collected
  refine {
    drains := ?_
    collects := ?_
    drain := by rw [drained]
    collect := by rw [collected, drained]
    delivered := fun r => s.mem_successes_fates
    increasing := List.pairwise_map.1
      (List.pairwise_lt_range.sublist (index_filterMap_fate? s (List.range s.source.count)))
    stays := ?_ }
  · rw [drained]
    exact drains
  · rw [drained]
    exact drains.collects
  · intro pulls asking
    rw [drained]
    exact spent.run asking

/-- A stream can be used up, from its beginning, in every way and with the same results; and the
lines printed for the records of a list are those of the results that are records. -/
theorem usedUp_of_open? {d : Dataset} {v : VarId} {source : RecordSource ρ σ} {filter : Option Expr}
    {start : RecordStream ρ σ} (opened : open? d v source filter = .ok start) :
    start.UsedUp ∧ ∀ (w : View) (sequence : String) (records : List Record),
      w.dataset = d → w.filter? v = filter → d.findVariable? sequence = some v →
        ∃ listed, open? d v (.ofList records) filter = .ok listed ∧ listed.UsedUp ∧
          filterLines w sequence records =
            .ok ((successes listed.fates).map IndexedRecord.line) := by
  refine ⟨(fresh_of_open? opened).usedUp, ?_⟩
  rintro w sequence records rfl rfl finds
  have listed : open? w.dataset v (.ofList records) (w.filter? v) = .ok _ :=
    open?_eq_ok_iff.2 ⟨(open?_eq_ok_iff.1 opened).1, rfl⟩
  have usedUp := (fresh_of_open? listed).usedUp
  refine ⟨_, listed, usedUp, ?_⟩
  rw [filterLines, finds]
  dsimp only
  rw [View.records, listed]
  dsimp only
  rw [usedUp.drain]

end

/-- More than thirty. -/
def salty : Expr := .compare (.relation .gt) (.field "salt") (.literal (.int 30))

/-- The stream gives its record and reports both errors; the line of the record is printed alone. -/
theorem usedUp_of_open?_samples : ∃ start,
    open? casts ⟨0⟩ samples (some salty) = .ok start ∧ start.UsedUp ∧
    start.drain.1 = [.ok ⟨0, .ofFields [("salt", .int 35)]⟩,
      .error (.unjudged (.unread (.missingField "salt"))), .error (.unread (.outOfRange 3 3))] ∧
    let w : View := .selection
      (.built casts [.addVariable ⟨0⟩ [], .addVariable ⟨1⟩ [], .setFilter ⟨0⟩ salty])
    filterLines w "/cast" [.ofFields [("salt", .int 20)], .empty, .ofFields [("salt", .int 35)]] =
      .ok ["\x7b\x22index\x22:2,\x22record\x22:\x7b\x22salt\x22:35\x7d\x7d"] := by
  have opened : open? casts ⟨0⟩ samples (some salty) = .ok _ := rfl
  obtain ⟨usedUp, lists⟩ := usedUp_of_open? opened
  refine ⟨_, opened, usedUp, usedUp.drain.trans rfl, ?_⟩
  obtain ⟨listed, opens, -, lines⟩ := lists (.selection
    (.built casts [.addVariable ⟨0⟩ [], .addVariable ⟨1⟩ [], .setFilter ⟨0⟩ salty])) "/cast"
    [.ofFields [("salt", .int 20)], .empty, .ofFields [("salt", .int 35)]] rfl rfl rfl
  cases opens
  exact lines.trans rfl

end Hyperslab.RecordStream
