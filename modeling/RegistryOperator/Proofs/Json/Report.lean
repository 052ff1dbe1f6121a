import Mathlib.Data.String.Basic
import RegistryOperator.Proofs.Json.Paths

/-! The report of the changes of a document has a line for each change, in the order of the paths.
Whatever the document holds, its text is one line, so the lines of the report can be told apart. And
where the names in a document are plain words, the path that a line is about can be read from it. -/

namespace RegistryOperator

/-- The lines of a text. -/
def linesOf (s : String) : List String := (s.split '\n').toList.map (·.copy)

/-- The path that a line is about: what stands after its first word, up to a colon. -/
def pathOf (line : String) : String :=
  .ofList (((line.toList.dropWhile (· ≠ ' ')).drop 1).takeWhile (· ≠ ':'))

/-- A text without a line break. -/
def OneLine (s : String) : Prop := '\n' ∉ s.toList

/-- A name of letters and digits only. -/
def Word (s : String) : Prop := ∀ c ∈ s.toList, c.isAlphanum = true

/-- A path all of whose names are words. -/
def PlainPath (s : String) : Prop := ∀ c ∈ s.toList, c = '/' ∨ c.isAlphanum = true

namespace OneLine

variable {s t : String} {cs : List Char}

theorem ofList (h : '\n' ∉ cs) : OneLine (String.ofList cs) := by
  rwa [OneLine, String.toList_ofList]

theorem append (hs : OneLine s) (ht : OneLine t) : OneLine (s ++ t) := by
  rw [OneLine, String.toList_append, List.mem_append, not_or]
  exact ⟨hs, ht⟩

theorem intercalate (hs : OneLine s) {parts : List String} (h : ∀ part ∈ parts, OneLine part) :
    OneLine (s.intercalate parts) := by
  induction parts with
  | nil => exact List.not_mem_nil
  | cons part parts ih =>
      have hpart := h part List.mem_cons_self
      have hrest := ih fun p hp => h p (List.mem_cons_of_mem _ hp)
      cases parts with
      | nil => rwa [String.intercalate_singleton]
      | cons next parts =>
          rw [String.intercalate_cons_cons]
          exact (hpart.append hs).append hrest

theorem not_mem_toDigits (n : ℕ) : '\n' ∉ Nat.toDigits 10 n := by
  intro hmem
  have hdigit := Nat.isDigit_of_mem_toDigits (by decide) (by decide) hmem
  exact absurd hdigit (by decide)

theorem nat (n : ℕ) : OneLine (toString n) := by
  rw [Nat.toString_eq_repr, Nat.repr_eq_ofList_toDigits]
  exact ofList (not_mem_toDigits n)

theorem int (n : Int) : OneLine (toString n) := by
  rw [Int.toString_eq_repr, Int.repr_eq_if]
  split_ifs
  · exact nat n.toNat
  · exact append (by simp [OneLine]) (nat (-n).toNat)

end OneLine

theorem Decimal.Layout.write_oneLine (l : Layout) (s : Scientific) : OneLine (l.write s) := by
  have hdigits := OneLine.not_mem_toDigits s.digits
  unfold write
  dsimp only
  split_ifs
  · simp [OneLine]
  · exact .ofList (by simpa using hdigits)
  · refine .ofList ?_
    have htake : ∀ n, '\n' ∉ (Nat.toDigits 10 s.digits).take n := fun _ h =>
      hdigits (List.mem_of_mem_take h)
    have hdrop : ∀ n, '\n' ∉ (Nat.toDigits 10 s.digits).drop n := fun _ h =>
      hdigits (List.mem_of_mem_drop h)
    simp [htake, hdrop]
  · exact .ofList (by simpa using hdigits)
  all_goals
    refine .append (.append (.ofList ?_) (by simp [OneLine])) (.int _)
    split <;> simp_all

theorem Decimal.Layout.text_oneLine (l : Layout) (bits : UInt64) : OneLine (l.text bits) := by
  unfold text
  split
  · simp [OneLine]
  · split_ifs <;> simp [OneLine]
  · refine .append ?_ (l.write_oneLine _)
    split_ifs <;> simp [OneLine]

namespace Json

theorem escape_oneLine (c : Char) : '\n' ∉ escape c := by
  have hhex : ∀ n < 32, '\n' ∉ (Text.hexPadded 4 n).toList := by decide
  unfold escape
  split_ifs with _ _ hbreak _ _ _ _ hcontrol
  · simp
  · simp
  · simp
  · simp
  · simp
  · simp
  · simp
  · simpa using hhex c.toNat hcontrol
  · simpa using Ne.symm hbreak

theorem quoted_oneLine (s : String) : OneLine (quoted s) := by
  refine .ofList ?_
  simp [escape_oneLine]

mutual

/-- The text of a document is one line. -/
theorem text_oneLine : ∀ j : Json, OneLine j.text
  | .null => by simp [text, OneLine]
  | .bool b => by cases b <;> simp [text, OneLine]
  | .num (.whole n) => .int n
  | .num (.double bits) => Number.layout.text_oneLine bits
  | .str s => quoted_oneLine s
  | .arr items => by
      rw [text]
      refine .append (.append (by simp [OneLine]) (.intercalate (by simp [OneLine]) ?_))
        (by simp [OneLine])
      exact itemTexts_oneLine items
  | .obj members => by
      rw [text]
      refine .append (.append (by simp [OneLine]) (.intercalate (by simp [OneLine]) ?_))
        (by simp [OneLine])
      exact memberTexts_oneLine members

theorem itemTexts_oneLine : ∀ items : List Json, ∀ part ∈ itemTexts items, OneLine part
  | item :: _, _, .head _ => text_oneLine item
  | _ :: rest, part, .tail _ htail => itemTexts_oneLine rest part htail

theorem memberTexts_oneLine :
    ∀ members : List (String × Json), ∀ part ∈ memberTexts members, OneLine part
  | (key, value) :: _, _, .head _ =>
      .append (.append (quoted_oneLine key) (by simp [OneLine])) (text_oneLine value)
  | _ :: rest, part, .tail _ htail => memberTexts_oneLine rest part htail

end

end Json

theorem Change.line_oneLine {c : Change} (hpath : OneLine c.path) : OneLine c.line := by
  cases c with
  | add path value =>
      exact .append (.append (.append (by simp [OneLine]) hpath) (by simp [OneLine]))
        value.text_oneLine
  | remove path => exact .append (by simp [OneLine]) hpath
  | replace path value =>
      exact .append (.append (.append (by simp [OneLine]) hpath) (by simp [OneLine]))
        value.text_oneLine

/-! ### The path of a line -/

theorem pathOf_append {verb path tail : String} (hverb : ' ' ∉ verb.toList)
    (hpath : ':' ∉ path.toList) (htail : ∀ c ∈ tail.toList.head?, c = ':') :
    pathOf (verb ++ " " ++ path ++ tail) = path := by
  have hwords : (verb ++ " " ++ path ++ tail).toList =
      verb.toList ++ ' ' :: (path.toList ++ tail.toList) := by
    simp only [String.toList_append, List.append_assoc]
    rfl
  have hskip : (verb.toList ++ ' ' :: (path.toList ++ tail.toList)).dropWhile (· ≠ ' ') =
      ' ' :: (path.toList ++ tail.toList) := by
    rw [List.dropWhile_append_of_pos, List.dropWhile_cons_of_neg (by simp)]
    intro c hc
    exact decide_eq_true fun heq => hverb (heq ▸ hc)
  have htake : (path.toList ++ tail.toList).takeWhile (· ≠ ':') = path.toList := by
    rw [List.takeWhile_append_of_pos]
    · cases hcs : tail.toList with
      | nil => simp
      | cons c cs =>
          have hc : c = ':' := htail c (by simp [hcs])
          simp [hc]
    · intro c hc
      exact decide_eq_true fun heq => hpath (heq ▸ hc)
  rw [pathOf, hwords, hskip, List.drop_one, List.tail_cons, htake, String.ofList_toList]

namespace PlainPath

variable {s t : String}

theorem append (hs : PlainPath s) (ht : PlainPath t) : PlainPath (s ++ t) := by
  intro c hc
  rw [String.toList_append, List.mem_append] at hc
  rcases hc with hc | hc
  · exact hs c hc
  · exact ht c hc

theorem word (h : Word s) : PlainPath s := fun c hc => Or.inr (h c hc)

theorem nat (n : ℕ) : PlainPath (toString n) := by
  apply word
  intro c hc
  rw [Nat.toString_eq_repr, Nat.repr_eq_ofList_toDigits, String.toList_ofList] at hc
  have hdigit := Nat.isDigit_of_mem_toDigits (by decide) (by decide) hc
  simp [Char.isAlphanum, hdigit]

theorem oneLine (h : PlainPath s) : OneLine s :=
  fun hmem => absurd (h _ hmem) (by decide)

theorem not_mem_colon (h : PlainPath s) : ':' ∉ s.toList :=
  fun hmem => absurd (h _ hmem) (by decide)

end PlainPath

/-- The path of a change is the one that its line is about. -/
theorem Change.pathOf_line {c : Change} (h : PlainPath c.path) : pathOf c.line = c.path := by
  have hcolon := h.not_mem_colon
  cases c with
  | add path value =>
      have hline : line (.add path value) = "add" ++ " " ++ path ++ (": " ++ value.text) :=
        String.append_assoc
      rw [hline]
      exact pathOf_append (by decide) hcolon (by simp)
  | remove path =>
      have hline : line (.remove path) = "remove" ++ " " ++ path ++ "" := String.append_empty.symm
      rw [hline]
      exact pathOf_append (by decide) hcolon (by simp)
  | replace path value =>
      have hline : line (.replace path value) =
          "replace" ++ " " ++ path ++ (": " ++ value.text) := String.append_assoc
      rw [hline]
      exact pathOf_append (by decide) hcolon (by simp)

theorem ChildKey.step_plain {k : ChildKey} (h : k.Fits Word) : PlainPath k.step := by
  have hslash : PlainPath "/" := by
    intro c hc
    exact Or.inl (List.mem_singleton.mp hc)
  cases k with
  | index n => exact hslash.append (.nat n)
  | name s =>
      refine hslash.append (.word ?_)
      intro c hc
      rw [String.toList_ofList, List.mem_flatMap] at hc
      obtain ⟨d, hd, hmem⟩ := hc
      have hplain := h d hd
      unfold escape at hmem
      split_ifs at hmem with htilde hslash
      · exact absurd (htilde ▸ hplain) (by decide)
      · exact absurd (hslash ▸ hplain) (by decide)
      · exact List.mem_singleton.mp hmem ▸ hplain

namespace Json

variable {old new : Json} {path : String} {c : Change}

theorem descends_plain : Descends Word PlainPath :=
  fun _ _ hk hpath => hpath.append (ChildKey.step_plain hk)

/-- The changes as they are reported. -/
def reported (old new : Json) : List Change := (changes old new).mergeSort lineBefore

theorem reported_perm (old new : Json) : (reported old new).Perm (changes old new) :=
  List.mergeSort_perm ..

theorem lineBefore_iff {a b : Change} :
    lineBefore a b = true ↔ a.path < b.path ∨ a.path = b.path ∧ a.line ≤ b.line := by
  simp [lineBefore]

/-- Reports are in the order of the paths. -/
theorem reported_sorted (old new : Json) : (reported old new).Pairwise (·.path ≤ ·.path) := by
  have htrans : ∀ a b c : Change, lineBefore a b = true → lineBefore b c = true →
      lineBefore a c = true := by
    simp only [lineBefore_iff]
    rintro a b c (hab | ⟨hab, hline⟩) (hbc | ⟨hbc, hline'⟩)
    · exact Or.inl (hab.trans hbc)
    · exact Or.inl (hbc ▸ hab)
    · exact Or.inl (hab ▸ hbc)
    · exact Or.inr ⟨hab.trans hbc, hline.trans hline'⟩
  have htotal : ∀ a b : Change, (lineBefore a b || lineBefore b a) = true := by
    intro a b
    rw [Bool.or_eq_true, lineBefore_iff, lineBefore_iff]
    rcases lt_trichotomy a.path b.path with hlt | heq | hlt
    · exact Or.inl (Or.inl hlt)
    · rcases le_total a.line b.line with hle | hle
      · exact Or.inl (Or.inr ⟨heq, hle⟩)
      · exact Or.inr (Or.inr ⟨heq.symm, hle⟩)
    · exact Or.inr (Or.inl hlt)
  refine (List.pairwise_mergeSort htrans htotal _).imp fun h => ?_
  rcases lineBefore_iff.mp h with hlt | ⟨heq, -⟩
  · exact hlt.le
  · exact heq.le

/-- **A report of changes has a line for each of them**, if all paths are one line. -/
theorem lines_describeChanges (hpaths : ∀ c ∈ changes old new, OneLine c.path)
    (hchanged : changes old new ≠ []) :
    linesOf (describeChanges old new) = (reported old new).map Change.line := by
  have hlines : ∀ line ∈ (reported old new).map Change.line, '\n' ∉ line.toList := by
    intro line hline
    obtain ⟨c, hc, rfl⟩ := List.mem_map.mp hline
    exact Change.line_oneLine (hpaths c ((reported_perm old new).mem_iff.mp hc))
  have hsome : (reported old new).map Change.line ≠ [] := by
    rw [ne_eq, List.map_eq_nil_iff, ← List.length_eq_zero_iff, (reported_perm old new).length_eq,
      List.length_eq_zero_iff]
    exact hchanged
  exact (String.toList_split_intercalate hlines).trans (if_neg hsome)

/-- **What the changes are about can be read from the report**, if all paths are plain. -/
theorem paths_describeChanges (hpaths : ∀ c ∈ changes old new, PlainPath c.path)
    (hchanged : changes old new ≠ []) :
    (linesOf (describeChanges old new)).map pathOf = (reported old new).map Change.path := by
  rw [lines_describeChanges (fun c hc => (hpaths c hc).oneLine) hchanged, List.map_map]
  apply List.map_congr_left
  intro c hc
  exact Change.pathOf_line (hpaths c ((reported_perm old new).mem_iff.mp hc))

end Json
end RegistryOperator
