/-
The lists in the texts of value sets. Between the words around it a list shows its first items, as
many as the layout allows, and an ellipsis behind them if there are more; the full text is that of
every layout that allows for all items. The one exception is a list of which nothing is shown: its
ellipsis is written behind a separator although there is nothing to separate it from.
-/
import ValueLattice.Proofs.ValueSet.Text

namespace ValueLattice

/-- How a list is written: the words around it, and the limit that a layout sets. -/
structure Listing where
  opening : String
  closing : String
  limit : Layout → Nat

/-- How the list of a kind is written, nothing for the kinds without a list. -/
def Kind.listing? : Kind → Option Listing
  | .signedRange => some ⟨"<signed ranges: [", "]>", Layout.maxRanges⟩
  | .unsignedRange => some ⟨"<unsigned ranges: [", "]>", Layout.maxRanges⟩
  | .lookupTable => some ⟨"<table: ", ">", Layout.maxTableEntries⟩
  | .inSet => some ⟨"<in set([", "])>", Layout.maxSetValues⟩
  | .notInSet => some ⟨"<not in set([", "])>", Layout.maxSetValues⟩
  | _ => none

namespace ValueSet

/-- The texts of the ranges, entries or values, none for the kinds without a list. -/
def itemTexts : ValueSet → List String
  | signedRanges _ ranges => ranges.map Range.text
  | unsignedRanges _ ranges => ranges.map Range.text
  | table t => t.entries.map TableEntry.text
  | inSet values => values.members.map fun v => Numeral.signedHex v.toInt
  | notInSet values => values.members.map fun v => Numeral.signedHex v.toInt
  | _ => []

/-- What a list shows of its items within a limit. -/
def shown (limit : Nat) (items : List String) : List String :=
  items.take (min limit items.length) ++ if limit < items.length then ["..."] else []

/-! ## Lists -/

section Lists

variable {limit : Nat} {items : List String}

theorem joinLimited_eq_joined_shown (h : limit = 0 → items = []) :
    joinLimited limit items = Text.joined ", " (shown limit items) := by
  unfold joinLimited shown
  split
  · next hcut =>
    have hne : items.take limit ≠ [] := by
      intro hnil
      rcases List.take_eq_nil_iff.1 hnil with hzero | hnone
      · simp [h hzero] at hcut
      · simp [hnone] at hcut
    rw [Nat.min_eq_left (Nat.le_of_lt hcut), Text.joined_concat hne, String.append_assoc]
    rfl
  · next hall =>
    have hle := Nat.le_of_not_lt hall
    rw [Nat.min_eq_right hle, List.append_nil, List.take_of_length_le hle, List.take_length]

theorem joinLimited_zero (h : items ≠ []) : joinLimited 0 items = ", ..." := by
  unfold joinLimited
  rw [if_pos (List.length_pos_of_ne_nil h)]
  rfl

theorem joined_shown_zero (h : items ≠ []) : Text.joined ", " (shown 0 items) = "..." := by
  unfold shown
  rw [if_pos (List.length_pos_of_ne_nil h), Nat.zero_min]
  rfl

/-- Whether a text begins with something, and not with a comma. -/
def BeginsPlain (text : String) : Prop :=
  ∃ c cs, text.toList = c :: cs ∧ c ≠ ','

/-- Whether a text begins with what separates two items. -/
def Separated (text : String) : Prop :=
  ", ".toList <+: text.toList

/-- A list does not begin with a separator if none of its items begins with a comma. -/
theorem not_separated_joined_shown (hitems : ∀ t ∈ items, BeginsPlain t) :
    ¬ Separated (Text.joined ", " (shown limit items)) := by
  have hshown : ∀ t ∈ shown limit items, BeginsPlain t := by
    intro t ht
    rcases List.mem_append.1 ht with ht | ht
    · exact hitems t (List.mem_of_mem_take ht)
    · obtain rfl : t = "..." := by
        split at ht
        · exact List.mem_singleton.1 ht
        · cases ht
      exact ⟨'.', ['.', '.'], rfl, by decide⟩
  unfold Separated
  cases h : shown limit items with
  | nil => simp [Text.joined]
  | cons t rest =>
    obtain ⟨c, cs, ht, hc⟩ := hshown t (h ▸ List.mem_cons_self)
    rw [Text.toList_joined_cons, ht]
    rintro ⟨more, hmore⟩
    exact hc (List.cons.inj hmore).1.symm

theorem joinLimited_eq_joined_shown_iff :
    joinLimited limit items = Text.joined ", " (shown limit items) ↔ (limit = 0 → items = []) := by
  refine ⟨fun heq hzero => ?_, joinLimited_eq_joined_shown⟩
  subst hzero
  by_contra hne
  rw [joinLimited_zero hne, joined_shown_zero hne] at heq
  exact absurd heq (by decide)

theorem separated_joinLimited_iff (hitems : ∀ t ∈ items, BeginsPlain t) :
    Separated (joinLimited limit items) ↔ limit = 0 ∧ items ≠ [] := by
  constructor
  · intro hsep
    by_contra hboth
    rw [joinLimited_eq_joined_shown (by simpa using hboth)] at hsep
    exact not_separated_joined_shown hitems hsep
  · rintro ⟨rfl, hne⟩
    rw [joinLimited_zero hne]
    exact ⟨['.', '.', '.'], rfl⟩

end Lists

/-! ## Texts -/

variable {s : ValueSet} {w : Listing}

theorem length_itemTexts (s : ValueSet) : s.itemTexts.length = s.count := by
  cases s <;> simp [itemTexts, count] <;> rfl

theorem format_of_listing (h : s.kind.listing? = some w) (layout : Layout) :
    s.format layout = w.opening ++ joinLimited (w.limit layout) s.itemTexts ++ w.closing := by
  cases s <;> cases h <;> rfl

theorem limit_unbounded (h : s.kind.listing? = some w) : w.limit .unbounded = unsignedLimit - 1 := by
  cases s <;> cases h <;> rfl

theorem beginsPlain_signedHex (n : Int) : BeginsPlain (Numeral.signedHex n) := by
  obtain ⟨digits, h | h⟩ := Numeral.exists_toList_signedHex n
  · exact ⟨_, _, h, by decide⟩
  · exact ⟨_, _, h, by decide⟩

theorem beginsPlain_range {α : Type} [Bound α] (r : Range α) : BeginsPlain r.text :=
  ⟨'<', _, by rw [Range.toList_text]; rfl, by decide⟩

theorem beginsPlain_entry (e : TableEntry) : BeginsPlain e.text :=
  ⟨'[', _, by rw [e.toList_text, Text.toList_bracketed]; rfl, by decide⟩

/-- No item begins with a comma, although items hold commas. -/
theorem beginsPlain_of_mem_itemTexts {t : String} (h : t ∈ s.itemTexts) : BeginsPlain t := by
  cases s with
  | signedRanges offset ranges =>
    obtain ⟨r, -, rfl⟩ := List.mem_map.1 h
    exact beginsPlain_range r
  | unsignedRanges offset ranges =>
    obtain ⟨r, -, rfl⟩ := List.mem_map.1 h
    exact beginsPlain_range r
  | table t =>
    obtain ⟨e, -, rfl⟩ := List.mem_map.1 h
    exact beginsPlain_entry e
  | inSet values =>
    obtain ⟨v, -, rfl⟩ := List.mem_map.1 h
    exact beginsPlain_signedHex _
  | notInSet values =>
    obtain ⟨v, -, rfl⟩ := List.mem_map.1 h
    exact beginsPlain_signedHex _
  | _ => cases h

theorem itemTexts_eq_nil_iff : s.itemTexts = [] ↔ s.count = 0 := by
  rw [← length_itemTexts, List.length_eq_zero_iff]

/-- Between its opening and its closing words the text of a list is that of the items which the
limit allows, with an ellipsis as one more item exactly if there are others, except where nothing of
some items is shown: there, and nowhere else, it begins with a separator. A limit that allows for
all items gives the full text. -/
theorem format_listing (layout : Layout) (h : s.kind.listing? = some w) :
    ∃ inner, s.format layout = w.opening ++ inner ++ w.closing ∧
      s.itemTexts.length = s.count ∧
      (inner = Text.joined ", " (s.itemTexts.take (min (w.limit layout) s.count) ++
          if w.limit layout < s.count then ["..."] else []) ↔
        (w.limit layout = 0 → s.count = 0)) ∧
      (w.limit layout = 0 → 0 < s.count → inner = ", ...") ∧
      (", ".toList <+: inner.toList ↔ w.limit layout = 0 ∧ 0 < s.count) ∧
      (s.count ≤ w.limit layout → w.limit layout < unsignedLimit → s.format layout = s.text) := by
  refine ⟨joinLimited (w.limit layout) s.itemTexts, format_of_listing h layout,
    s.length_itemTexts, ?_, fun hzero hcount => ?_, ?_, fun hle hlt => ?_⟩
  · rw [← itemTexts_eq_nil_iff, ← length_itemTexts]
    exact joinLimited_eq_joined_shown_iff
  · rw [hzero]
    exact joinLimited_zero (mt itemTexts_eq_nil_iff.1 (Nat.pos_iff_ne_zero.1 hcount))
  · rw [Nat.pos_iff_ne_zero, ne_eq, ← itemTexts_eq_nil_iff]
    exact separated_joinLimited_iff fun t => beginsPlain_of_mem_itemTexts
  · have hfull : s.itemTexts.length ≤ w.limit .unbounded := by
      rw [length_itemTexts, limit_unbounded h]
      omega
    rw [text, format_of_listing h, format_of_listing h, joinLimited_of_length_le hfull,
      joinLimited_of_length_le (by rwa [length_itemTexts])]

/-- The last of three values is left out. -/
theorem format_listing_cut :
    (inSet (.ofList [1, 2, 3])).kind.listing? =
      some ⟨"<in set([", "])>", Layout.maxSetValues⟩ ∧
    ∃ inner, (inSet (.ofList [1, 2, 3])).format ⟨8, 2, 8, false⟩ = "<in set([" ++ inner ++ "])>" ∧
      inner = Text.joined ", " ["0x1", "0x2", "..."] ∧ ¬ ", ".toList <+: inner.toList := by
  have h : (inSet (.ofList [1, 2, 3])).kind.listing? = some _ := rfl
  obtain ⟨inner, htext, -, hinner, -, hsep, -⟩ := format_listing ⟨8, 2, 8, false⟩ h
  refine ⟨h, inner, htext, ?_, ?_⟩
  · exact (hinner.2 (by decide)).trans (by decide)
  · rw [hsep]
    decide

/-- A list of which nothing is shown begins with a separator, and is not the ellipsis alone. -/
theorem format_listing_nothing :
    (inSet (.ofList [1])).kind.listing? =
      some ⟨"<in set([", "])>", Layout.maxSetValues⟩ ∧
    (inSet (.ofList [1])).format ⟨8, 0, 8, false⟩ = "<in set([, ...])>" ∧
    (inSet (.ofList [1])).format ⟨8, 0, 8, false⟩ ≠
      "<in set([" ++ Text.joined ", " ((inSet (.ofList [1])).itemTexts.take 0 ++ ["..."]) ++ "])>" ∧
    ", ".toList <+: ", ...".toList := by
  refine ⟨rfl, ?_⟩
  decide

end ValueSet

end ValueLattice
