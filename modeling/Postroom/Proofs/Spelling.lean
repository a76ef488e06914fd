import Mathlib.Data.List.DropRight
import Postroom.Domain

/-!
# Names spelled again

A name is brought to its kept spelling in three steps, each taken once: blank characters off both ends, one full stop
off the end, capitals to small letters. The full stop goes last from the end, and what stood before it is not looked at
again. So where that is a blank or another full stop, the kept name ends in it, and would lose it if it were spelled
again: the domain that is read back from its own name is another one. Everywhere else a domain is what its name says.

- `Text.isBlank_toLower`, `Text.toLower_toLower`: small letters against the other two steps.
- `Text.Bare`, `Text.bare_trimChars`, `Text.trimChars_of_bare`: texts without blanks at either end.
- `Domain.reread`: the domain that is read back from a name. `Domain.Kept`: what a name must be to stay as it is.
- `Domain.Frayed`: texts whose domain is not read back. `Domain.rereads_iff`: all others are.
-/

namespace Postroom

namespace Text

/-! ### Small letters -/

/-- A letter is made small by 32 code points. -/
theorem toLower_cases (c : Char) :
    c.toLower = c ∨ 65 ≤ c.toNat ∧ c.toNat ≤ 90 ∧ c.toLower.toNat = c.toNat + 32 := by
  by_cases capital : 65 ≤ c.toNat ∧ c.toNat ≤ 90
  · refine .inr ⟨capital.1, capital.2, ?_⟩
    have upper : c.val ≥ 'A'.val ∧ c.val ≤ 'Z'.val := capital
    have small : c.toLower.val = c.val + ('a'.val - 'A'.val) := congrArg Char.val (dif_pos upper)
    show c.toLower.val.toNat = _
    have below : c.val.toNat ≤ 90 := capital.2
    rw [small, UInt32.toNat_add, show ('a'.val - 'A'.val).toNat = 32 from rfl,
      Nat.mod_eq_of_lt (by omega)]
    rfl
  · exact .inl (dif_neg capital)

theorem toLower_toLower (c : Char) : c.toLower.toLower = c.toLower := by
  rcases toLower_cases c with same | ⟨low, high, small⟩
  · rw [same, same]
  · rcases toLower_cases c.toLower with same | ⟨-, high', -⟩
    · exact same
    · omega

/-- No letter is blank. -/
theorem isBlank_toLower (c : Char) : isBlank c.toLower = isBlank c := by
  rcases toLower_cases c with same | ⟨low, high, small⟩
  · rw [same]
  · have letter : ∀ d : Char, 65 ≤ d.toNat → d.toNat ≤ 122 → isBlank d = false := by
      intro d low high
      simp only [isBlank, blankRanges, List.any_eq_false, List.mem_cons, List.not_mem_nil, or_false,
        Bool.and_eq_true, decide_eq_true_eq]
      rintro r (rfl | rfl | rfl | rfl | rfl | rfl | rfl | rfl | rfl | rfl) <;> omega
    rw [letter c low (by omega), letter c.toLower (by omega) (by omega)]

theorem toLower_eq_stop {c : Char} : c.toLower = '.' ↔ c = '.' := by
  rcases toLower_cases c with same | ⟨low, high, small⟩
  · rw [same]
  · have stop : ('.' : Char).toNat = 46 := rfl
    constructor
    · intro same
      rw [same, stop] at small
      omega
    · intro same
      rw [same, stop] at low
      omega

/-! ### Blanks at the ends -/

/-- There is no blank character at either end. -/
structure Bare (cs : List Char) : Prop where
  front : ∀ c ∈ cs.head?, isBlank c = false
  back : ∀ c ∈ cs.getLast?, isBlank c = false

theorem bare_trimChars (cs : List Char) : Bare (trimChars cs) := by
  have trimmed : trimChars cs = (cs.dropWhile isBlank).rdropWhile isBlank := rfl
  constructor
  · intro c first
    -- what is left after the end was trimmed begins as before
    have start : trimChars cs <+: cs.dropWhile isBlank := List.rdropWhile_prefix isBlank _
    obtain ⟨rest, split⟩ := start
    obtain ⟨tail, here⟩ : ∃ tail, trimChars cs = c :: tail := List.head?_eq_some_iff.1 first
    have head := List.head?_dropWhile_not isBlank cs
    rw [← split, here] at head
    exact head
  · intro c last
    rw [trimmed] at last
    obtain ⟨some, rfl⟩ := List.mem_getLast?_eq_getLast last
    exact Bool.eq_false_iff.2 (List.rdropWhile_last_not isBlank _ some)

/-- A text that is bare is trimmed. -/
theorem trimChars_of_bare {cs : List Char} (bare : Bare cs) : trimChars cs = cs := by
  have front : cs.dropWhile isBlank = cs := by
    cases cs with
    | nil => rfl
    | cons c cs => exact List.dropWhile_cons_of_neg (by simp [bare.front c rfl])
  show (cs.dropWhile isBlank).rdropWhile isBlank = cs
  rw [front]
  refine List.rdropWhile_eq_self_iff.2 fun some blank => ?_
  rw [bare.back _ (List.getLast_mem_getLast? some)] at blank
  cases blank

end Text

namespace Domain

open Text

/-- The domain that is read back from the name of another one. -/
def reread (d : Domain) : Domain := ofText d.name

/-! ### Names that stay -/

/-- A name that is spelled as names are kept: no blank at either end, no full stop at the end, no capitals. -/
structure Kept (cs : List Char) : Prop where
  bare : Bare cs
  stop : cs.getLast? ≠ some '.'
  small : ∀ c ∈ cs, c.toLower = c

theorem prefix_dropFinalDot (cs : List Char) : dropFinalDot cs <+: cs := by
  unfold dropFinalDot
  split
  · exact List.dropLast_prefix cs
  · exact List.prefix_rfl

theorem spell_of_kept {cs : List Char} (kept : Kept cs) : spell cs = cs := by
  rw [spell, trimChars_of_bare kept.bare, dropFinalDot, if_neg kept.stop]
  exact (List.map_congr_left kept.small).trans (List.map_id cs)

/-- A kept name begins with no blank, and has no capitals. -/
theorem front_spell (cs : List Char) : ∀ c ∈ (spell cs).head?, isBlank c = false := by
  intro c first
  rw [spell, List.head?_map] at first
  obtain ⟨a, ha, rfl⟩ := Option.map_eq_some_iff.1 first
  rw [isBlank_toLower]
  obtain ⟨rest, split⟩ := prefix_dropFinalDot (trimChars cs)
  refine (bare_trimChars cs).front a ?_
  rw [← split, List.head?_append_of_ne_nil]
  · exact ha
  · intro none
    rw [none] at ha
    cases ha

theorem small_spell (cs : List Char) : ∀ c ∈ spell cs, c.toLower = c := by
  intro c hc
  obtain ⟨a, -, rfl⟩ := List.mem_map.1 hc
  exact toLower_toLower a

/-- What is spelled again is at most shorter at the end. -/
theorem spell_spell_prefix (cs : List Char) : spell (spell cs) <+: spell cs := by
  have front : (spell cs).dropWhile isBlank = spell cs := by
    cases spelled : spell cs with
    | nil => rfl
    | cons c rest =>
      refine List.dropWhile_cons_of_neg ?_
      rw [front_spell cs c (by rw [spelled]; rfl)]
      exact Bool.false_ne_true
  have trimmed : trimChars (spell cs) <+: spell cs := by
    show ((spell cs).dropWhile isBlank).rdropWhile isBlank <+: spell cs
    rw [front]
    exact List.rdropWhile_prefix isBlank _
  have left := (prefix_dropFinalDot (trimChars (spell cs))).trans trimmed
  have same : spell (spell cs) = dropFinalDot (trimChars (spell cs)) :=
    (List.map_congr_left fun c hc => small_spell cs c (left.subset hc)).trans (List.map_id _)
  rw [same]
  exact left

/-- A name that stays as it is has nothing that is taken off. -/
theorem kept_of_spell {cs : List Char} (same : spell cs = cs) : Kept cs := by
  have trimmed : (trimChars cs).Sublist cs :=
    (List.rdropWhile_prefix isBlank _).sublist.trans (List.dropWhile_sublist isBlank)
  have stopped : (dropFinalDot (trimChars cs)).Sublist (trimChars cs) := (prefix_dropFinalDot _).sublist
  have length : (dropFinalDot (trimChars cs)).length = cs.length := by
    rw [← List.length_map (f := Char.toLower)]
    exact congrArg List.length same
  -- neither of the two steps at the ends makes it any shorter
  have bare : trimChars cs = cs := trimmed.eq_of_length_le (length ▸ stopped.length_le)
  rw [bare] at stopped length
  refine ⟨bare ▸ bare_trimChars cs, fun stop => ?_, same ▸ small_spell cs⟩
  rw [dropFinalDot, if_pos stop, List.length_dropLast] at length
  cases cs with
  | nil => cases stop
  | cons c rest =>
    rw [List.length_cons] at length
    omega

/-- The names that stay as they are. -/
theorem spell_eq_self_iff {cs : List Char} : spell cs = cs ↔ Kept cs := ⟨kept_of_spell, spell_of_kept⟩

/-- Whether a spelled name stays depends on what the full stop stood behind. -/
theorem kept_spell_iff (cs : List Char) :
    Kept (spell cs) ↔ ∀ c ∈ (dropFinalDot (trimChars cs)).getLast?, c ≠ '.' ∧ isBlank c = false := by
  have last : (spell cs).getLast? = (dropFinalDot (trimChars cs)).getLast?.map Char.toLower := List.getLast?_map
  constructor
  · intro kept c hc
    have small : c.toLower ∈ (spell cs).getLast? := last ▸ Option.mem_map_of_mem _ hc
    refine ⟨fun stop => kept.stop ?_, ?_⟩
    · rw [Option.mem_def.1 small, stop]
      rfl
    · rw [← isBlank_toLower]
      exact kept.bare.back _ small
  · intro clean
    refine ⟨⟨front_spell cs, fun c hc => ?_⟩, fun stop => ?_, small_spell cs⟩
    · obtain ⟨a, ha, rfl⟩ := Option.map_eq_some_iff.1 (last ▸ hc)
      rw [isBlank_toLower]
      exact (clean a ha).2
    · obtain ⟨a, ha, same⟩ := Option.map_eq_some_iff.1 (last ▸ stop)
      exact (clean a ha).1 (toLower_eq_stop.1 same)

/-! ### Reading back -/

/-- But for the blanks around it, the text ends in a full stop behind another full stop or a blank. -/
def Frayed (s : String) : Prop :=
  ∃ front c, trimChars s.toList = front ++ [c, '.'] ∧ (c = '.' ∨ isBlank c)

/-- The spelling of a text stays unless the text is frayed. -/
theorem kept_iff_not_frayed (s : String) : Kept (spell s.toList) ↔ ¬ Frayed s := by
  have bare := bare_trimChars s.toList
  rw [kept_spell_iff, dropFinalDot]
  by_cases stop : (trimChars s.toList).getLast? = some '.'
  · obtain ⟨front, split⟩ := List.getLast?_eq_some_iff.1 stop
    rw [if_pos stop, split, List.dropLast_concat]
    constructor
    · rintro clean ⟨front', c, split', bad⟩
      have same : front = front' ++ [c] := by
        rw [split, List.append_cons front'] at split'
        exact List.append_cancel_right split'
      obtain ⟨noStop, noBlank⟩ := clean c (by rw [same]; exact List.getLast?_concat)
      rcases bad with rfl | blank
      · exact noStop rfl
      · rw [noBlank] at blank
        cases blank
    · intro firm c last
      obtain ⟨front', rfl⟩ := List.getLast?_eq_some_iff.1 last
      have behind : trimChars s.toList = front' ++ [c, '.'] := by rw [split, List.append_assoc]; rfl
      exact ⟨fun same => firm ⟨front', c, behind, .inl same⟩,
        Bool.eq_false_iff.2 fun blank => firm ⟨front', c, behind, .inr blank⟩⟩
  · rw [if_neg stop]
    refine iff_of_true (fun c last => ⟨?_, bare.back c last⟩) ?_
    · rintro rfl
      exact stop last
    · rintro ⟨front, c, split, -⟩
      refine stop ?_
      rw [split, List.append_cons]
      exact List.getLast?_concat

theorem toList_ofText (s : String) : (ofText s).name.toList = spell s.toList := String.toList_ofList

/-- A domain is read back if its name is one of those that stay as they are. -/
theorem reread_eq_iff (d : Domain) : d.reread = d ↔ Kept d.name.toList := by
  rw [← spell_eq_self_iff]
  constructor
  · intro same
    rw [← toList_ofText]
    exact congrArg (fun d => d.name.toList) same
  · intro same
    rw [reread, ofText, same, String.ofList_toList]

/-- A domain that is written out by its name and read back is the same one, unless it came from a frayed text. Then
the one that is read back is another, whose name lacks something at the end. -/
theorem rereads_iff (s : String) :
    ((ofText s).reread = ofText s ↔ ¬ Frayed s) ∧
      ∃ lost, (ofText s).name.toList = (ofText s).reread.name.toList ++ lost ∧ (lost = [] ↔ ¬ Frayed s) := by
  have kept : (ofText s).reread = ofText s ↔ ¬ Frayed s := by
    rw [reread_eq_iff, toList_ofText, kept_iff_not_frayed]
  have back : (ofText s).reread.name.toList <+: (ofText s).name.toList := by
    rw [reread, toList_ofText, toList_ofText]
    exact spell_spell_prefix s.toList
  obtain ⟨lost, split⟩ := back
  refine ⟨kept, lost, split.symm, ?_⟩
  rw [← kept]
  constructor
  · rintro rfl
    rw [List.append_nil, String.toList_inj] at split
    exact congrArg mk split
  · intro same
    rw [same] at split
    exact List.append_right_eq_self.1 split

example : ofText " A.. " = ⟨"a."⟩ ∧ (ofText " A.. ").reread = ⟨"a"⟩ := by decide +kernel

end Domain

end Postroom
