/-
# `Hyperslab.Proofs.Filter.Deliveries` — what becomes of every record

The four calls on a stream may come in any order, and reading or judging a record may fail
anywhere.  The fates of the records are the same; the calls only decide when they are reported.

`Leads s t given` keeps the books from one state to another: the records between the two cursors
were read, in order, each once and no others, since the source is the one that such readings
leave; and their fates are, in order, what was given and what is held in the end.  One call keeps
them (`leads_pull`), so all calls do (`leads_run`), and `accounts_run` reads off what this means
for a stream from its beginning on.
-/
import Hyperslab.Dataset.Declaration
import Hyperslab.Filter.Engine
import Hyperslab.Proofs.Filter.Likeness
import Mathlib.Data.List.Basic

namespace Hyperslab.RecordStream

section

variable [PatternCompiler] {ρ σ : Type} [FieldReader ρ] {s t u : RecordStream ρ σ}

/-! ## Keeping the books -/

/-- The indices between the cursors of two states. -/
def between (s t : RecordStream ρ σ) : List Nat := List.range' s.cursor (t.cursor - s.cursor)

/-- Between two states of a stream, the records between their cursors were read, and their fates
together with what was held are what was `given` together with what is held now. -/
structure Leads (s t : RecordStream ρ σ) (given : List (Except StreamError (IndexedRecord ρ))) :
    Prop where
  same : t = { s with
    source := t.source, cursor := t.cursor, held := t.held, patterns := t.patterns }
  /-- The source has changed as it does when these records are read, in order. -/
  source : t.source = s.source.after s.cursor (t.cursor - s.cursor)
  sound : t.patterns.Sound
  forward : s.cursor ≤ t.cursor
  within : s.cursor ≤ s.source.count → t.cursor ≤ s.source.count
  books : s.held.toList.map .ok ++ (between s t).filterMap s.fate? = given ++ t.held.toList.map .ok
  /-- A record is held right behind its place. -/
  newest : (∀ r ∈ s.held, r.index + 1 = s.cursor) → ∀ r ∈ t.held, r.index + 1 = t.cursor

namespace Leads

variable {given given' : List (Except StreamError (IndexedRecord ρ))}

theorem refl (sound : s.patterns.Sound) : Leads s s [] where
  same := rfl
  source := by rw [Nat.sub_self]; rfl
  sound := sound
  forward := Nat.le_refl _
  within := id
  books := by rw [between, Nat.sub_self]; exact List.append_nil _
  newest := id

theorem count_eq (h : Leads s t given) : t.source.count = s.source.count := by
  rw [h.source, RecordSource.count_after]

theorem begun (h : Leads s t given) (begun : s.cursor ≤ s.source.count) :
    t.cursor ≤ t.source.count := by
  rw [h.count_eq]
  exact h.within begun

theorem verdict_eq (h : Leads s t given) : t.verdict = s.verdict := by
  rw [h.same]
  rfl

theorem cursor_add (h : Leads s t given) : s.cursor + (t.cursor - s.cursor) = t.cursor :=
  Nat.add_sub_cancel' h.forward

/-- The way from one cursor on goes by way of the other. -/
theorem sub_cursor (h : Leads s t given) {i : Nat} (later : t.cursor ≤ i) :
    i - s.cursor = t.cursor - s.cursor + (i - t.cursor) := by
  have forward := h.forward
  omega

/-- Records that were not read come to what they would have come to before. -/
theorem fate?_eq (h : Leads s t given) {i : Nat} (later : t.cursor ≤ i) : t.fate? i = s.fate? i := by
  have same : t.content i = s.content i := by
    rw [content, content, h.sub_cursor later, RecordSource.after_add, h.cursor_add, ← h.source]
  rw [fate?, fate?, same, h.verdict_eq]

theorem between_append (h : Leads s t given) (h' : Leads t u given') :
    between s u = between s t ++ between t u := by
  rw [between, between, between, h.sub_cursor h'.forward, ← List.range'_append_1, h.cursor_add]

theorem trans (h : Leads s t given) (h' : Leads t u given') : Leads s u (given ++ given') where
  same := by
    rw [h'.same, h.same]
  source := by
    rw [h'.source, h.source, h.sub_cursor h'.forward, RecordSource.after_add, h.cursor_add]
  sound := h'.sound
  forward := Nat.le_trans h.forward h'.forward
  within begun := by
    have there := h'.within (h.begun begun)
    rwa [h.count_eq] at there
  books := by
    have later : (between t u).filterMap s.fate? = (between t u).filterMap t.fate? :=
      List.filterMap_congr fun i hi => (h.fate?_eq (List.mem_range'_1.1 hi).1).symm
    rw [h.between_append h', List.filterMap_append, later, ← List.append_assoc, h.books,
      List.append_assoc, h'.books, List.append_assoc]
  newest begun := h'.newest (h.newest begun)

/-- One record is read, and given or held according to its fate. -/
theorem one {patterns : PatternCache} {held : Option (IndexedRecord ρ)} (sound : patterns.Sound)
    (empty : s.held = none) (inside : s.cursor < s.source.count)
    (fate : (s.fate? s.cursor).toList = given ++ held.toList.map .ok) :
    Leads s { s with
      cursor := s.cursor + 1, source := (s.source.readAt s.cursor).2, held, patterns } given where
  same := rfl
  source := by rw [Nat.add_sub_cancel_left]; rfl
  sound := sound
  forward := Nat.le_succ _
  within _ := inside
  books := by
    have here : between s { s with
        cursor := s.cursor + 1, source := (s.source.readAt s.cursor).2, held, patterns } =
          [s.cursor] := by
      rw [between, Nat.add_sub_cancel_left]
      rfl
    rw [here, empty, List.filterMap_cons, List.filterMap_nil, ← fate]
    cases s.fate? s.cursor <;> rfl
  newest _ r hr := by
    have now : held = some r := hr
    have last : Except.ok r ∈ (s.fate? s.cursor).toList := by
      rw [fate, now]
      exact List.mem_append_right _ (List.mem_singleton.2 rfl)
    rw [(of_fate?_eq_ok (Option.mem_toList.1 last)).1]

/-- What is held is given away. -/
theorem take (sound : s.patterns.Sound) :
    Leads s { s with held := none } (s.held.toList.map .ok) where
  same := rfl
  source := by rw [Nat.sub_self]; rfl
  sound := sound
  forward := Nat.le_refl _
  within := id
  books := by rw [between, Nat.sub_self]; rfl
  newest _ := nofun

end Leads

/-! ## Asking -/

/-- The error that asking reports. -/
def failure : Except StreamError Bool → List (Except StreamError (IndexedRecord ρ))
  | .error e => [.error e]
  | .ok _ => []

/-- What asking does to a stream, whatever it answers. -/
structure Asks (s t : RecordStream ρ σ) (answer : Except StreamError Bool) : Prop where
  leads : Leads s t (failure answer)
  found : ∀ b, answer = .ok b → t.held.isSome = b
  /-- There is no next record only at the end. -/
  ended : answer = .ok false → t.cursor = max s.cursor s.source.count

/-- Looking among the records that are left. -/
theorem asks_seek (sound : s.patterns.Sound) (empty : s.held = none) {steps : Nat}
    (left : s.cursor + steps = s.source.count) :
    Asks s (s.seek steps).2 (s.seek steps).1 := by
  induction steps generalizing s with
  | zero =>
    refine ⟨.refl sound, ?_, fun _ => ?_⟩
    · rintro b ⟨⟩
      rw [show (s.seek 0).2.held = none from empty]
      rfl
    · show s.cursor = _
      omega
  | succ steps ih =>
    obtain ⟨patterns, kept, step⟩ := exists_step_eq sound
    have inside : s.cursor < s.source.count := by omega
    rw [seek]
    cases fate : s.fate? s.cursor with
    | none =>
      -- rejected: the search goes on behind the record, with one step less to go
      rw [fate] at step
      rw [step]
      dsimp only
      have first : Leads s { s with
          cursor := s.cursor + 1, source := (s.source.readAt s.cursor).2, patterns } [] := by
        refine Leads.one kept empty inside ?_
        rw [fate, empty]
        rfl
      have rest := ih (s := { s with
          cursor := s.cursor + 1, source := (s.source.readAt s.cursor).2, patterns }) kept empty (by
        show s.cursor + 1 + steps = s.source.count
        omega)
      refine ⟨first.trans rest.leads, rest.found, fun answer => ?_⟩
      rw [rest.ended answer]
      show max (s.cursor + 1) s.source.count = _
      omega
    | some result =>
      rw [fate] at step
      rw [step]
      cases result with
      | error e =>
        refine ⟨Leads.one kept empty inside ?_, ?_, ?_⟩
        · rw [fate, empty]
          rfl
        · rintro b ⟨⟩
        · rintro ⟨⟩
      | ok r =>
        refine ⟨Leads.one kept empty inside ?_, ?_, ?_⟩
        · rw [fate]
          rfl
        · rintro b ⟨⟩
          rfl
        · rintro ⟨⟩

theorem asks_hasNext (sound : s.patterns.Sound) (within : s.cursor ≤ s.source.count) :
    Asks s s.hasNext.2 s.hasNext.1 := by
  cases held : s.held with
  | some r =>
    rw [hasNext_of_held held]
    refine ⟨.refl sound, ?_, ?_⟩
    · rintro b ⟨⟩
      rw [held]
      rfl
    · rintro ⟨⟩
  | none =>
    rw [hasNext_of_not_held held]
    refine asks_seek sound held ?_
    rw [remaining]
    omega

/-! ## All calls -/

/-- One call keeps the books, and shows what it gives. -/
theorem leads_pull (sound : s.patterns.Sound) (within : s.cursor ≤ s.source.count) (c : Pull) :
    Leads s (s.pull c).2 (s.gives? c).toList ∧
      (s.pull c).1 = c.shows (s.gives? c) (s.pull c).2.held.isSome := by
  have asks := asks_hasNext sound within
  cases c with
  | hasNext =>
    have leads := asks.leads
    have found := asks.found
    unfold pull gives?
    dsimp only
    cases answer : s.hasNext.1 with
    | error e =>
      rw [answer] at leads
      exact ⟨leads, rfl⟩
    | ok b =>
      rw [answer] at leads
      refine ⟨leads, ?_⟩
      rw [found b answer]
      rfl
  | takeIndexed =>
    unfold pull gives?
    dsimp only
    rw [takeIndexed_eq, Option.toList_map]
    exact ⟨.take sound, rfl⟩
  | takeRecord =>
    unfold pull gives? takeRecord
    dsimp only
    rw [takeIndexed_eq, Option.toList_map]
    exact ⟨.take sound, rfl⟩
  | next =>
    have leads := asks.leads
    have answers := next_eq s asks.found
    unfold pull
    dsimp only
    rw [answers]
    refine ⟨?_, rfl⟩
    unfold gives?
    dsimp only
    cases hasNext : s.hasNext with
    | mk answer t =>
      rw [hasNext] at leads
      cases answer with
      | error e => exact leads
      | ok b =>
        -- what was found is taken at once
        dsimp only
        rw [Option.toList_map]
        exact leads.trans (.take leads.sound)

theorem leads_run (sound : s.patterns.Sound) (within : s.cursor ≤ s.source.count)
    (pulls : List Pull) : Leads s (s.run pulls).2 (s.given pulls) := by
  induction pulls generalizing s with
  | nil => exact .refl sound
  | cons c rest ih =>
    obtain ⟨first, _⟩ := leads_pull sound within c
    exact first.trans (ih first.sound (first.begun within))

/-! ## From the beginning on -/

omit [FieldReader ρ] in
theorem open?_eq_ok_iff {d : Dataset} {v : VarId} {source : RecordSource ρ σ} {filter : Option Expr} :
    open? d v source filter = .ok s ↔
      (d.var v).isSequence = true ∧ s = ⟨d, v, source, filter, 0, none, .empty⟩ := by
  unfold open?
  split
  · rename_i sequence
    constructor
    · rintro ⟨⟩
      exact ⟨sequence, rfl⟩
    · rintro ⟨_, rfl⟩
      rfl
  · rename_i other
    constructor
    · rintro ⟨⟩
    · rintro ⟨sequence, _⟩
      exact absurd sequence other

/-- The records that pass have their places for indices. -/
theorem index_filterMap_fate? (s : RecordStream ρ σ) (is : List Nat) :
    List.Sublist (((is.filterMap s.fate?).filterMap Except.toOption).map IndexedRecord.index)
      is := by
  induction is with
  | nil => exact .slnil
  | cons i is ih =>
    cases fate : s.fate? i with
    | none =>
      rw [List.filterMap_cons_none fate]
      exact ih.cons i
    | some result =>
      rw [List.filterMap_cons_some fate]
      cases result with
      | error e => exact ih.cons i
      | ok r =>
        have index : r.index = i := (of_fate?_eq_ok fate).1
        show List.Sublist (r.index :: _) (i :: is)
        rw [index]
        exact ih.cons_cons i

/-- A stream at its beginning. -/
structure Fresh (s : RecordStream ρ σ) : Prop where
  cursor : s.cursor = 0
  held : s.held = none
  sound : s.patterns.Sound

omit [FieldReader ρ] in
theorem Fresh.begun (fresh : s.Fresh) : s.cursor ≤ s.source.count := by
  rw [fresh.cursor]
  exact Nat.zero_le _

omit [FieldReader ρ] in
theorem fresh_of_open? {d : Dataset} {v : VarId} {source : RecordSource ρ σ} {filter : Option Expr}
    (opened : open? d v source filter = .ok s) : s.Fresh := by
  obtain ⟨_, rfl⟩ := open?_eq_ok_iff.1 opened
  exact ⟨rfl, rfl, PatternCache.sound_empty⟩

theorem leads_of_open? {d : Dataset} {v : VarId} {source : RecordSource ρ σ} {filter : Option Expr}
    (opened : open? d v source filter = .ok s) (pulls : List Pull) :
    Leads s (s.run pulls).2 (s.given pulls) := by
  have fresh := fresh_of_open? opened
  exact leads_run fresh.sound fresh.begun pulls

omit [FieldReader ρ] in
theorem Fresh.content (fresh : s.Fresh) (i : Nat) : s.content i = (s.source.after 0 i).read i := by
  rw [RecordStream.content, fresh.cursor, Nat.sub_zero]

namespace Leads

variable {start : RecordStream ρ σ} {given : List (Except StreamError (IndexedRecord ρ))}
  {r : IndexedRecord ρ}

theorem source_eq (h : Leads start s given) (fresh : start.Fresh) :
    s.source = start.source.after 0 s.cursor := by
  rw [h.source, fresh.cursor, Nat.sub_zero]

theorem given_append (h : Leads start s given) (fresh : start.Fresh) :
    given ++ s.held.toList.map .ok = (List.range s.cursor).filterMap start.fate? := by
  rw [← h.books, fresh.held, between, fresh.cursor, Nat.sub_zero, List.range_eq_range']
  rfl

/-- A record that was given or is held was read, and passed. -/
theorem passed (h : Leads start s given) (fresh : start.Fresh)
    (hr : .ok r ∈ given ++ s.held.toList.map .ok) :
    start.content r.index = .ok r.record ∧ start.verdict r.record = .ok true := by
  rw [h.given_append fresh] at hr
  obtain ⟨i, _, fate⟩ := List.mem_filterMap.1 hr
  obtain ⟨rfl, read, passed⟩ := of_fate?_eq_ok fate
  exact ⟨read, passed⟩

theorem increasing (h : Leads start s given) (fresh : start.Fresh) :
    (given.filterMap Except.toOption).Pairwise fun a b => a.index < b.index := by
  have indices := index_filterMap_fate? start (List.range s.cursor)
  rw [← h.given_append fresh, List.filterMap_append, List.map_append] at indices
  have increasing := List.pairwise_lt_range.sublist
    ((List.sublist_append_left _ _).trans indices)
  exact List.pairwise_map.1 increasing

end Leads

/-! ### Other sources -/

/-- A source that records what is read gives the same. -/
theorem agreement_recording (bound : Nat) : Agreement ρ bound
    (fun (a : RecordSource ρ σ) b => ∃ indices, b = a.recording indices) Eq where
  count := by
    rintro a b ⟨indices, rfl⟩
    rfl
  readAt := by
    rintro a b i ⟨indices, rfl⟩ -
    exact ⟨rfl, _, rfl⟩
  evaluate := by
    rintro p q rfl e d v r
    exact ⟨rfl, rfl⟩

/-- So does a source that responds the same as far as it is asked. -/
theorem agreement_respond {bound : Nat} {source other : RecordSource ρ σ}
    (agree : ∀ i < bound, other.respond i = source.respond i) : Agreement ρ bound
      (fun a b => a.respond = source.respond ∧ b = { a with respond := other.respond }) Eq where
  count := by
    rintro a b ⟨-, rfl⟩
    rfl
  readAt := by
    rintro a b i ⟨responds, rfl⟩ inside
    have same : other.respond i a.state = a.respond i a.state := by rw [agree i inside, responds]
    refine ⟨?_, responds, ?_⟩
    · show (other.respond i a.state).1 = (a.respond i a.state).1
      rw [same]
    · show { a with respond := other.respond, state := (other.respond i a.state).2 } = _
      rw [same]
      rfl
  evaluate := by
    rintro p q rfl e d v r
    exact ⟨rfl, rfl⟩

omit [FieldReader ρ] in
theorem Alike.eq_withSource {τ : Type} {R : RecordSource ρ σ → RecordSource ρ τ → Prop}
    {t : RecordStream ρ τ} (h : Alike R Eq s t) : t = s.withSource t.source := by
  have same := h.same
  rw [← h.patterns] at same
  exact same

/-- Recording what is read changes no answer, and what is recorded are the indices up to the
cursor. -/
theorem Fresh.reads (fresh : s.Fresh) (pulls : List Pull) :
    ((s.withSource (s.source.recording [])).run pulls).1 = (s.run pulls).1 ∧
      s.reads pulls = List.range (s.run pulls).2.cursor := by
  have recorded : (s.withSource (s.source.recording [])).Fresh := ⟨fresh.cursor, fresh.held, fresh.sound⟩
  have start : Alike (fun (a : RecordSource ρ σ) b => ∃ indices, b = a.recording indices) Eq s
      (s.withSource (s.source.recording [])) := ⟨rfl, ⟨[], rfl⟩, rfl⟩
  obtain ⟨answers, alike⟩ := (agreement_recording _).run start (Nat.le_refl _)
  have leads := leads_run recorded.sound recorded.begun pulls
  refine ⟨answers, ?_⟩
  rw [RecordStream.reads, leads.source_eq recorded, ← alike.cursor]
  show (RecordSource.after (s.source.recording []) 0 _).state.2 = _
  rw [RecordSource.after_recording, List.range_eq_range']
  rfl

/-- What is read decides about the answers, and nothing else in the source. -/
theorem Fresh.ahead (fresh : s.Fresh) (pulls : List Pull) (other : RecordSource ρ σ)
    (count : other.count = s.source.count) (state : other.state = s.source.state)
    (agree : ∀ i < (s.run pulls).2.cursor, other.respond i = s.source.respond i) :
    (s.withSource other).run pulls = ((s.run pulls).1,
      (s.run pulls).2.withSource (other.after 0 (s.run pulls).2.cursor)) := by
  have replaced : (s.withSource other).Fresh := ⟨fresh.cursor, fresh.held, fresh.sound⟩
  have start : Alike (fun (a : RecordSource ρ σ) b => a.respond = s.source.respond ∧
      b = { a with respond := other.respond }) Eq s (s.withSource other) := by
    refine ⟨rfl, ⟨rfl, ?_⟩, rfl⟩
    show other = ⟨s.source.count, s.source.state, other.respond⟩
    rw [← count, ← state]
  obtain ⟨answers, alike⟩ := (agreement_respond agree).run start (Nat.le_refl _)
  have leads := leads_run replaced.sound replaced.begun pulls
  refine Prod.ext answers (alike.eq_withSource.trans ?_)
  rw [leads.source_eq replaced, alike.cursor]
  rfl

/-- A stream accounts for its records, whatever calls are made on it. -/
structure Accounts (start : RecordStream ρ σ) (pulls : List Pull) (s : RecordStream ρ σ) :
    Prop where
  /-- The records in front of the cursor were read once each and in order, and no others.  So a
  source says that records what is read, and nobody can tell it from the other. -/
  reads : start.reads pulls = List.range s.cursor
  unnoticed : ((start.withSource (start.source.recording [])).run pulls).1 = (start.run pulls).1
  /-- The source is left in the state in which these readings leave it. -/
  source : s.source = start.source.after 0 s.cursor
  content : ∀ i, start.content i = (start.source.after 0 i).read i
  /-- If a source gives the same for an index whenever it is read, this is what it gives. -/
  fixed : ∀ answer : Nat → Except RecordError ρ,
    (∀ i state, (start.source.respond i state).1 = answer i) → start.content = answer
  /-- All records that were read and not rejected were given, by one call each, or one of them is
  still held. -/
  books : start.given pulls ++ s.held.toList.map .ok = (List.range s.cursor).filterMap start.fate?
  delivered : ∀ r, .ok r ∈ start.given pulls →
    start.content r.index = .ok r.record ∧ start.verdict r.record = .ok true
  increasing : ((start.given pulls).filterMap Except.toOption).Pairwise fun a b => a.index < b.index
  /-- The record that is held passed, and it was the last one to be read. -/
  held : ∀ r ∈ s.held, r.index + 1 = s.cursor ∧
    start.content r.index = .ok r.record ∧ start.verdict r.record = .ok true
  within : s.cursor ≤ start.source.count
  /-- The cursor can be counted wherever the records can. -/
  fits : start.source.count < UInt64.size → ∀ i ∈ start.reads pulls, i + 1 < UInt64.size
  /-- The next call, whichever it is, shows what it gives. -/
  shows : ∀ c, (s.pull c).1 = c.shows (s.gives? c) (s.pull c).2.held.isSome
  hasNext_of_held : s.held.isSome → s.hasNext = (.ok true, s)
  take_of_not_held : s.held = none → s.takeIndexed = (.error .nothingHeld, s) ∧
    s.takeRecord = (.error .nothingHeld, s) ∧ Reported.kind StreamError.nothingHeld = .usage
  ended : ∀ t, s.hasNext = (.ok false, t) → t.cursor = start.source.count
  /-- The records behind the cursor have had no influence. -/
  ahead : ∀ other : RecordSource ρ σ, other.count = start.source.count →
    other.state = start.source.state → (∀ i < s.cursor, other.respond i = start.source.respond i) →
      (start.withSource other).run pulls =
        ((start.run pulls).1, s.withSource (other.after 0 s.cursor))

theorem accounts_run {d : Dataset} {v : VarId} {source : RecordSource ρ σ} {filter : Option Expr}
    {start : RecordStream ρ σ} (opened : open? d v source filter = .ok start) (pulls : List Pull) :
    start.Accounts pulls (start.run pulls).2 := by
  have fresh := fresh_of_open? opened
  have leads := leads_run fresh.sound fresh.begun pulls
  obtain ⟨unnoticed, reads⟩ := fresh.reads pulls
  have ahead := fresh.ahead pulls
  generalize (start.run pulls).2 = s at leads reads ahead ⊢
  have within : s.cursor ≤ start.source.count := leads.within fresh.begun
  have inside : s.cursor ≤ s.source.count := leads.begun fresh.begun
  refine {
    reads
    unnoticed
    source := leads.source_eq fresh
    content := fresh.content
    fixed := fun answer => content_of_fixed
    books := leads.given_append fresh
    delivered := fun r hr => leads.passed fresh (List.mem_append_left _ hr)
    increasing := leads.increasing fresh
    held := fun r hr => ⟨leads.newest (by rw [fresh.held]; nofun) r hr, leads.passed fresh ?_⟩
    within
    fits := fun small i hi => ?_
    shows := fun c => (leads_pull leads.sound inside c).2
    hasNext_of_held := fun holds => ?_
    take_of_not_held := fun none => ?_
    ended := fun t finds => ?_
    ahead }
  · rw [Option.mem_def.1 hr]
    exact List.mem_append_right _ (List.mem_singleton.2 rfl)
  · rw [reads, List.mem_range] at hi
    omega
  · obtain ⟨r, held⟩ := Option.isSome_iff_exists.1 holds
    exact RecordStream.hasNext_of_held held
  · have takes := takeIndexed_of_not_held none
    refine ⟨takes, ?_, rfl⟩
    rw [takeRecord, takes]
    rfl
  · have last := (asks_hasNext leads.sound inside).ended (congrArg Prod.fst finds)
    rw [finds, leads.count_eq] at last
    rw [last]
    exact Nat.max_eq_right within

end

/-- A sequence of salinities. -/
def casts : Dataset := .built "casts"
  [.var (.group .root) "cast" .sequence [], .var (.compound ⟨0⟩) "salt" (.atomic .int32) []]

/-- Four records are claimed: one passes, one is rejected, one has no value, and one is not
there. -/
def samples : RecordSource :=
  .claiming (.ofList [.ofFields [("salt", .int 35)], .ofFields [("salt", .int 20)], .empty]) 4

/-- Taking too early, asking twice, taking, and asking and taking at once until nothing is left. -/
def impatient : List Pull := [.takeRecord, .hasNext, .hasNext, .takeIndexed, .next, .next, .next]

theorem accounts_run_impatient : ∃ start,
    open? casts ⟨0⟩ samples (some (.compare (.relation .gt) (.field "salt") (.literal (.int 30)))) =
      .ok start ∧
    start.Accounts impatient (start.run impatient).2 ∧
    start.given impatient = [.ok ⟨0, .ofFields [("salt", .int 35)]⟩,
      .error (.unjudged (.unread (.missingField "salt"))), .error (.unread (.outOfRange 3 3))] ∧
    start.reads impatient = [0, 1, 2, 3] := by
  have opened : open? casts ⟨0⟩ samples
      (some (.compare (.relation .gt) (.field "salt") (.literal (.int 30)))) = .ok _ := rfl
  exact ⟨_, opened, accounts_run opened impatient, rfl, rfl⟩

end Hyperslab.RecordStream
