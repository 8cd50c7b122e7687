/-
# `Hyperslab.Proofs.Regex.Groups` — what opens a group, with a parenthesis behind

Flags are read up to a colon or to a closing parenthesis, which may be the one behind the text; so flags are
followed together with what they are read up to (`flagsBehind?`).  A name that is still open at the
parenthesis is read up to an angle bracket beyond it.
-/
import Hyperslab.Proofs.Regex.Readers

namespace Hyperslab.Regex

/-! ## Flags -/

/-- Flags, some of which have been read, and what is behind them. -/
def flagsBehind? (s : FlagChange × Bool × Bool) (cs : List Char) :
    Option (GroupOpening × List Char) :=
  (flagChange? s.1 s.2.1 s.2.2 cs).bind fun p => match p.2 with
    | ':' :: rest => some (.group p.1, rest)
    | ')' :: rest => if p.1.isEmpty then none else some (.flags p.1, rest)
    | _ => none

theorem flagsBehind?_eq (s : FlagChange × Bool × Bool) (cs : List Char) :
    flagsBehind? s cs = match cs with
      | [] => none
      | c :: rest =>
        if c = ':' then if s.2.2 then none else some (.group s.1, rest)
        else if c = ')' then if s.2.2 || s.1.isEmpty then none else some (.flags s.1, rest)
        else if c = '-' then if s.2.1 then none else flagsBehind? (s.1, true, true) rest
        else (flagNamed? c).bind fun flag =>
          if s.1.any fun d => d.1 == flag then none
          else flagsBehind? (s.1 ++ [(flag, !s.2.1)], s.2.1, false) rest := by
  obtain ⟨done, clearing, dangling⟩ := s
  rcases cs with _ | ⟨c, rest⟩
  · rfl
  · unfold flagsBehind?
    simp only [flagChange?]
    by_cases colon : c = ':'
    · subst colon
      cases dangling <;> simp
    by_cases parenthesis : c = ')'
    · subst parenthesis
      cases dangling <;> simp
    by_cases hyphen : c = '-'
    · subst hyphen
      cases clearing <;> simp
    · simp only [colon, parenthesis, hyphen, or_self, if_false]
      cases flagNamed? c with
      | none => rfl
      | some flag =>
        simp only [Option.bind_some]
        split <;> rfl

/-- By induction on the text, for flags are read without a count of steps. -/
theorem suffix_flagsBehind? {s : FlagChange × Bool × Bool} {cs : List Char} {o : GroupOpening}
    {r : List Char} (read : flagsBehind? s cs = some (o, r)) : r <:+ cs := by
  induction cs generalizing s with
  | nil => cases read
  | cons c rest ih =>
    refine .trans ?_ (List.suffix_cons c rest)
    rw [flagsBehind?_eq] at read
    dsimp only at read
    split at read
    · split at read <;> cases read
      exact List.suffix_rfl
    split at read
    · split at read <;> cases read
      exact List.suffix_rfl
    split at read
    · split at read
      · cases read
      · exact ih read
    · obtain ⟨flag, -, read⟩ := Option.bind_eq_some_iff.1 read
      split at read
      · cases read
      · exact ih read

theorem steady_flagsBehind? (s : FlagChange × Bool × Bool) : Steady (flagsBehind? s) := by
  intro limit
  induction limit generalizing s with
  | zero => exact ⟨suffix_flagsBehind?, suffix_flagsBehind?, nofun⟩
  | succ limit ih =>
    refine .congr (flagsBehind?_eq s) (fun _ => flagsBehind?_eq s) (.head fun c => ?_)
    exact .ite (.ite (.fail limit) (.pure limit _)) (.ite (.ite (.fail limit) (.pure limit _))
      (.ite (.ite (.fail limit) (ih _)) (.ofOption (flagNamed? c) fun flag => .ite (.fail limit) (ih _))))

/-! ## Names -/

theorem groupName?_eq_some {cs name r : List Char} (read : groupName? cs = some (name, r)) :
    cs.dropWhile (· != '>') = '>' :: r := by
  unfold groupName? at read
  dsimp only at read
  split at read
  · rename_i rest _ ends
    split at read
    · cases read
      exact ends
    · cases read
  · cases read

theorem steady_groupName? : Steady groupName? := by
  have suffix {cs name r : List Char} (read : groupName? cs = some (name, r)) : r <:+ cs :=
    (groupName?_eq_some read ▸ List.suffix_cons '>' r).trans (List.dropWhile_suffix (· != '>'))
  refine fun limit => ⟨suffix, suffix, fun cs _ => ?_⟩
  rcases ends : cs.dropWhile (· != '>') with _ | ⟨c, more⟩
  -- the name is still open at the parenthesis
  · have none : groupName? cs = none := Option.eq_none_iff_forall_ne_some.2 fun ⟨name, r⟩ read => by
      simp [groupName?_eq_some read] at ends
    refine .past (by simp [none]) fun u name r read => ?_
    have further := groupName?_eq_some read
    rw [List.dropWhile_append, ends, List.isEmpty_nil, if_pos rfl,
      List.dropWhile_cons_of_pos (by decide)] at further
    exact (further ▸ List.suffix_cons '>' r).trans (List.dropWhile_suffix (· != '>'))
  · have apart (u : List Char) :
        groupName? (cs ++ ')' :: u) = (groupName? cs).map fun q => (q.1, q.2 ++ ')' :: u) := by
      unfold groupName?
      rw [List.takeWhile_append, if_neg (length_takeWhile_ne ends), List.dropWhile_append, ends]
      rcases cs.takeWhile (· != '>') with _ | ⟨first, others⟩ <;> grind
    simp only [apart]
    cases groupName? cs with
    | none => exact .past nofun nofun
    | some q => exact .same rfl fun _ => rfl

/-! ## Openings -/

theorem flagOpening?_eq (cs : List Char) : flagOpening? cs = flagsBehind? ([], false, false) cs := by
  refine congrArg (Option.bind _) (funext fun ⟨change, rest⟩ => ?_)
  rfl

theorem steady_groupOpening? (spaced : Bool) : Steady (groupOpening? spaced) := by
  have named := steady_groupName?.map fun name => GroupOpening.capture (some name)
  have angle := Steady.branch (p := fun c => c == '=' || c == '!') rfl (fun _ => .fail) named
  have letter := Steady.head fun c => .ite (P := c = '<') named .fail
  refine .congr (fun cs => ?_) (.skip spaced (.branch (p := (· == '?')) rfl (fun _ => .branch
    (p := fun c => c == '<' || c == 'P' || c == '=' || c == '!') rfl
    (fun c => .ite (P := c = '<') angle (.ite (P := c = 'P') letter .fail))
    (steady_flagsBehind? ([], false, false))) (.pure (GroupOpening.capture none))))
  clear named angle letter
  have other (cs : List Char) : flagOpening? ('P' :: cs) = none := rfl
  simp only [← flagOpening?_eq]
  unfold groupOpening?
  rcases skipSpace spaced cs with _ | ⟨c, rest⟩
  · rfl
  by_cases mark : c = '?'
  · subst mark
    rcases rest with _ | ⟨d, rest⟩
    · rfl
    by_cases angle : d = '<'
    · subst angle
      rcases rest with _ | ⟨e, rest⟩
      · rfl
      · grind
    by_cases letter : d = 'P'
    · subst letter
      rcases rest with _ | ⟨e, rest⟩
      · rfl
      by_cases angle : e = '<'
      · subst angle
        rfl
      · grind
    · grind
  · simp [mark]

end Hyperslab.Regex
