import Companion.Text.Lines
import Companion.Proofs.Text.Pieces

/-!
# Indented lines

Indentation seen from left to right: spaces go in front of the first character of each line that has
one, except the first line. So what stands on one line is passed unchanged, and a text is indented
piece by piece. Indenting at every kind of line end is indenting at line feeds once the other line
ends have become line feeds.
-/

set_option autoImplicit false

namespace Companion.Text

/-! ## Line feeds -/

/-- Indents the lines of a text; `fresh` says that the text starts a line that is to be indented. -/
def indentFrom (width : Nat) : Bool → Text → Text
  | _, [] => []
  | fresh, c :: rest =>
    if c = '\n' then c :: indentFrom width true rest
    else (if fresh then List.replicate width ' ' else []) ++ c :: indentFrom width false rest

variable {width : Nat}

@[simp] theorem indentFrom_nil (fresh : Bool) : indentFrom width fresh [] = [] := rfl

@[simp] theorem indentFrom_lineFeed (fresh : Bool) (rest : Text) :
    indentFrom width fresh ('\n' :: rest) = '\n' :: indentFrom width true rest := rfl

theorem indentFrom_cons {c : Char} (inLine : c ≠ '\n') (fresh : Bool) (rest : Text) :
    indentFrom width fresh (c :: rest) =
      (if fresh then List.replicate width ' ' else []) ++ c :: indentFrom width false rest := by
  rw [indentFrom, if_neg inLine]

private def indentLine (width : Nat) (line : Text) : Text :=
  if line.isEmpty then line else List.replicate width ' ' ++ line

private theorem indentFrom_eq_join (width : Nat) (fresh : Bool) (text : Text) :
    ∃ first lines, splitOn '\n' text = first :: lines ∧
      indentFrom width fresh text =
        join ['\n'] ((if fresh then indentLine width first else first) ::
          lines.map (indentLine width)) := by
  induction text generalizing fresh with
  | nil => exact ⟨[], [], rfl, by cases fresh <;> rfl⟩
  | cons c rest ih =>
      by_cases feed : c = '\n'
      · subst feed
        obtain ⟨first, lines, split, indented⟩ := ih true
        refine ⟨[], first :: lines, by rw [splitOn_cons_separator, split], ?_⟩
        rw [indentFrom_lineFeed, indented]
        cases fresh <;> simp [indentLine]
      · obtain ⟨first, lines, split, indented⟩ := ih false
        refine ⟨c :: first, lines, by rw [splitOn, split]; simp [feed], ?_⟩
        rw [indentFrom_cons feed, indented]
        cases lines <;> cases fresh <;> simp [indentLine]

theorem nest_eq_indentFrom (width : Nat) (text : Text) :
    nest width text = indentFrom width false text := by
  obtain ⟨first, lines, split, indented⟩ := indentFrom_eq_join width false text
  rw [indented, nest, split]
  rfl

/-- Without blank lines all lines but the first are indented. -/
theorem splitOn_nest (width : Nat) {text first : Text} {lines : List Text}
    (split : splitOn '\n' text = first :: lines) (some : ∀ line ∈ lines, line ≠ []) :
    splitOn '\n' (nest width text) =
      first :: lines.map (List.replicate width ' ' ++ ·) := by
  have inLine : ∀ line ∈ first :: lines, '\n' ∉ line := by
    intro line member
    exact not_mem_of_mem_splitOn (split ▸ member)
  have indented : (lines.map fun line =>
      if line.isEmpty then line else List.replicate width ' ' ++ line) =
        lines.map (List.replicate width ' ' ++ ·) :=
    List.map_congr_left fun line member => if_neg (by simpa using some line member)
  rw [nest, split]
  simp only [indented]
  refine splitOn_join (by simp) ?_
  rw [List.forall_mem_cons] at inLine ⊢
  refine ⟨inLine.1, fun line member => ?_⟩
  obtain ⟨inner, isInner, rfl⟩ := List.mem_map.mp member
  simp [inLine.2 inner isInner]

/-- What stands on one line is indented as a whole, if at all. -/
theorem indentFrom_append (width : Nat) {text : Text} (some : text ≠ []) (inLine : '\n' ∉ text)
    (fresh : Bool) (rest : Text) : indentFrom width fresh (text ++ rest) =
      (if fresh then List.replicate width ' ' else []) ++ text ++ indentFrom width false rest := by
  induction text generalizing fresh with
  | nil => exact absurd rfl some
  | cons c more ih =>
      rw [List.mem_cons, not_or] at inLine
      obtain ⟨first, others⟩ := inLine
      rw [List.cons_append, indentFrom_cons (Ne.symm first)]
      by_cases none : more = []
      · simp [none]
      · rw [ih none others]
        simp

theorem indentFrom_false_append (width : Nat) {text : Text} (inLine : '\n' ∉ text) (rest : Text) :
    indentFrom width false (text ++ rest) = text ++ indentFrom width false rest := by
  by_cases none : text = []
  · rw [none, List.nil_append, List.nil_append]
  · rw [indentFrom_append width none inLine]
    simp

/-- Indents a text that something follows on its last line. -/
def indentThrough (width : Nat) : Bool → Text → Text
  | fresh, [] => if fresh then List.replicate width ' ' else []
  | fresh, c :: rest =>
    if c = '\n' then c :: indentThrough width true rest
    else (if fresh then List.replicate width ' ' else []) ++ c :: indentThrough width false rest

theorem indentThrough_cons {c : Char} (inLine : c ≠ '\n') (fresh : Bool) (rest : Text) :
    indentThrough width fresh (c :: rest) =
      (if fresh then List.replicate width ' ' else []) ++ c :: indentThrough width false rest := by
  rw [indentThrough, if_neg inLine]

/-- A text and what follows it on its last line are indented apart. -/
theorem indentFrom_append_cons (width : Nat) {c : Char} (inLine : c ≠ '\n') (fresh : Bool)
    (text rest : Text) : indentFrom width fresh (text ++ c :: rest) =
      indentThrough width fresh text ++ indentFrom width false (c :: rest) := by
  induction text generalizing fresh with
  | nil =>
      rw [List.nil_append, indentFrom_cons inLine, indentFrom_cons inLine]
      rfl
  | cons d more ih =>
      by_cases feed : d = '\n'
      · subst feed
        rw [List.cons_append, indentFrom_lineFeed, ih]
        rfl
      · rw [List.cons_append, indentFrom_cons feed, ih, indentThrough_cons feed, List.append_assoc,
          List.cons_append]

theorem indentThrough_append {text : Text} (inLine : '\n' ∉ text) (rest : Text) :
    indentThrough width false (text ++ rest) = text ++ indentThrough width false rest := by
  induction text with
  | nil => rfl
  | cons c more ih =>
      rw [List.mem_cons, not_or] at inLine
      rw [List.cons_append, indentThrough_cons (Ne.symm inLine.1), ih inLine.2]
      rfl

theorem indentThrough_eq_self {text : Text} (inLine : '\n' ∉ text) (width : Nat) :
    indentThrough width false text = text := by
  simpa [indentThrough] using indentThrough_append inLine []

private theorem indentThrough_fresh {text : Text} (inLine : ∀ c ∈ text.head?, c ≠ '\n')
    (fresh : Bool) : indentThrough width fresh text =
      (if fresh then List.replicate width ' ' else []) ++ indentThrough width false text := by
  cases text with
  | nil => cases fresh <;> simp [indentThrough]
  | cons c rest =>
      have first : c ≠ '\n' := inLine c rfl
      rw [indentThrough_cons first, indentThrough_cons first]
      rfl

theorem indentThrough_zero (text : Text) : indentThrough 0 false text = text := by
  have blank : ∀ fresh, indentThrough 0 fresh text = text := by
    induction text with
    | nil => intro fresh; cases fresh <;> rfl
    | cons c rest ih =>
        intro fresh
        by_cases feed : c = '\n'
        · rw [indentThrough, if_pos feed, ih]
        · rw [indentThrough_cons feed, ih]
          cases fresh <;> rfl
  exact blank false

/-- Indenting twice is indenting once, by both widths. -/
theorem indentThrough_indentThrough (outer inner : Nat) (fresh : Bool) (text : Text) :
    indentThrough outer fresh (indentThrough inner fresh text) =
      indentThrough (outer + inner) fresh text := by
  have spaces : ∀ (fresh : Bool) {rest : Text}, (∀ c ∈ rest.head?, c ≠ '\n') →
      indentThrough outer fresh ((if fresh then List.replicate inner ' ' else []) ++ rest) =
        (if fresh then List.replicate (outer + inner) ' ' else []) ++
          indentThrough outer false rest := by
    intro fresh rest inLine
    cases fresh with
    | false => rfl
    | true =>
        have blank : '\n' ∉ List.replicate inner ' ' := by simp
        have first : ∀ c ∈ (List.replicate inner ' ' ++ rest).head?, c ≠ '\n' := by
          cases inner with
          | zero => simpa using inLine
          | succ inner => simp [List.replicate_succ]
        simp only [↓reduceIte]
        rw [indentThrough_fresh first, indentThrough_append blank,
          ← List.replicate_append_replicate, List.append_assoc, if_pos rfl]
  induction text generalizing fresh with
  | nil => simpa [indentThrough] using spaces fresh (by simp : ∀ c ∈ ([] : Text).head?, c ≠ '\n')
  | cons c rest ih =>
      by_cases feed : c = '\n'
      · subst feed
        show '\n' :: indentThrough outer true (indentThrough inner true rest) = _
        rw [ih]
        rfl
      · rw [indentThrough_cons feed, spaces fresh (by simpa using feed), indentThrough_cons feed,
          ih, indentThrough_cons feed]
        rfl

/-- Each line feed brings the spaces of one line at least. -/
theorem length_indentThrough (width : Nat) (fresh : Bool) (text : Text) :
    text.length + (if fresh = true ∨ '\n' ∈ text then width else 0) ≤
      (indentThrough width fresh text).length := by
  induction text generalizing fresh with
  | nil => cases fresh <;> simp [indentThrough]
  | cons c rest ih =>
      by_cases feed : c = '\n'
      · have behind := ih true
        subst feed
        simp only [indentThrough, ↓reduceIte, List.length_cons, List.mem_cons, true_or,
          or_true] at behind ⊢
        omega
      · have behind := ih false
        rw [indentThrough_cons feed]
        have same : '\n' ∈ c :: rest ↔ '\n' ∈ rest := by simp [Ne.symm feed]
        cases fresh <;>
          simp only [same, Bool.false_eq_true, false_or, true_or, ↓reduceIte, List.length_append,
            List.length_cons, List.length_nil, List.length_replicate] at behind ⊢
        · omega
        · split at behind <;> omega

theorem mem_indentThrough {fresh : Bool} {text : Text} {c : Char}
    (member : c ∈ indentThrough width fresh text) : c ∈ text ∨ c = ' ' := by
  have blank : ∀ {fresh : Bool}, c ∈ (if fresh then List.replicate width ' ' else []) → c = ' ' := by
    intro fresh inBlank
    cases fresh with
    | false => cases inBlank
    | true => exact List.eq_of_mem_replicate inBlank
  induction text generalizing fresh with
  | nil => exact .inr (blank member)
  | cons d rest ih =>
      by_cases feed : d = '\n'
      · rw [indentThrough, if_pos feed, List.mem_cons] at member
        rcases member with rfl | member
        · exact .inl List.mem_cons_self
        · exact (ih member).imp_left (List.mem_cons_of_mem _)
      · rw [indentThrough_cons feed, List.mem_append, List.mem_cons] at member
        rcases member with inBlank | rfl | member
        · exact .inr (blank inBlank)
        · exact .inl List.mem_cons_self
        · exact (ih member).imp_left (List.mem_cons_of_mem _)

/-- What follows the last line feed apart, indenting a text is indenting it as one that goes on. -/
theorem indentFrom_prefix_indentThrough (width : Nat) (fresh : Bool) (text : Text) :
    indentFrom width fresh text <+: indentThrough width fresh text := by
  induction text generalizing fresh with
  | nil => exact List.nil_prefix
  | cons c rest ih =>
      by_cases feed : c = '\n'
      · rw [indentFrom, if_pos feed, indentThrough, if_pos feed]
        exact List.cons_prefix_cons.mpr ⟨rfl, ih true⟩
      · rw [indentFrom_cons feed, indentThrough_cons feed]
        exact (List.prefix_append_right_inj _).mpr (List.cons_prefix_cons.mpr ⟨rfl, ih false⟩)

/-! ## All line ends -/

private theorem lines_cons {c : Char} {rest : Text}
    (single : c = '\r' → rest.head? ≠ some '\n') :
    lines (c :: rest) =
      if isLineEnd c then [] :: lines rest
      else
        match lines rest with
        | [] => [[c]]
        | line :: more => (c :: line) :: more := by
  have apart : ∀ more, c = '\r' → rest = '\n' :: more → False := by
    rintro more rfl rfl
    exact single rfl rfl
  exact lines.eq_3 c rest apart

theorem normalizeLineEnds_cons {c : Char} {rest : Text}
    (single : c = '\r' → rest.head? ≠ some '\n') :
    normalizeLineEnds (c :: rest) =
      (if isLineEnd c then '\n' else c) :: normalizeLineEnds rest := by
  rw [normalizeLineEnds]
  rintro more rfl rfl
  exact single rfl rfl

/-- A line end behind a text ends its last line, unless it goes on with a carriage return. -/
private theorem lines_append_ending {text ending : Text} (isEnd : lines ending = [[]])
    (apart : ending.head? = some '\n' → text.getLast? ≠ some '\r') :
    lines (text ++ ending) = splitOn '\n' (normalizeLineEnds text) := by
  induction text using normalizeLineEnds.induct with
  | case1 => exact isEnd
  | case2 rest ih =>
      have apartRest : ending.head? = some '\n' → rest.getLast? ≠ some '\r' := by
        intro feed
        cases rest with
        | nil => simp
        | cons c more => simpa using apart feed
      rw [normalizeLineEnds, splitOn_cons_separator, ← ih apartRest]
      rfl
  | case3 c rest notPair ih =>
      have apartRest : ending.head? = some '\n' → rest.getLast? ≠ some '\r' := by
        intro feed
        cases rest with
        | nil => simp
        | cons c more => simpa using apart feed
      have single : c = '\r' → rest.head? ≠ some '\n' := by
        rintro rfl
        cases rest with
        | nil => simp
        | cons d more =>
            rintro feed
            obtain rfl := Option.some.inj feed
            exact notPair more rfl rfl
      have singleBefore : c = '\r' → (rest ++ ending).head? ≠ some '\n' := by
        rintro rfl
        cases rest with
        | nil => exact fun feed => apart feed rfl
        | cons d more => simpa using single rfl
      rw [List.cons_append, lines_cons singleBefore, normalizeLineEnds_cons single, ih apartRest]
      by_cases ends : isLineEnd c = true
      · rw [if_pos ends, if_pos ends, splitOn_cons_separator]
      · have inLine : c ≠ '\n' := by
          rintro rfl
          exact ends rfl
        rw [if_neg ends, if_neg ends, splitOn]
        cases splitOn '\n' (normalizeLineEnds rest) with
        | nil => rfl
        | cons line more => simp [inLine]

/-- Indenting at every kind of line end is indenting at line feeds once they are the only ones. -/
theorem indentLines_eq_nest (width : Nat) {text : Text} (final : text.getLast? ≠ some '\r') :
    indentLines width text = nest width (normalizeLineEnds text) := by
  rw [indentLines, lines_append_ending rfl fun _ => final, nest]

theorem isLineEnd_of_mem_normalizeLineEnds {text : Text} {c : Char}
    (member : c ∈ normalizeLineEnds text) (ends : isLineEnd c = true) : c = '\n' := by
  induction text using normalizeLineEnds.induct with
  | case1 => simp [normalizeLineEnds] at member
  | case2 rest ih =>
      rw [normalizeLineEnds, List.mem_cons] at member
      rcases member with same | member
      · exact same
      · exact ih member
  | case3 d rest notPair ih =>
      rw [normalizeLineEnds, List.mem_cons] at member
      · rcases member with same | member
        · by_cases endsHere : isLineEnd d = true
          · simpa [endsHere] using same
          · rw [if_neg endsHere] at same
            exact absurd (same ▸ ends) endsHere
        · exact ih member
      · exact notPair

/-- A text whose only line ends are line feeds is as it should be. -/
theorem normalizeLineEnds_eq_self {text : Text}
    (feeds : ∀ c ∈ text, isLineEnd c = true → c = '\n') : normalizeLineEnds text = text := by
  induction text with
  | nil => rfl
  | cons c rest ih =>
      have here := feeds c List.mem_cons_self
      have single : c = '\r' → rest.head? ≠ some '\n' := by
        rintro rfl
        exact absurd (here rfl) (by decide)
      rw [normalizeLineEnds_cons single, ih fun d member => feeds d (List.mem_cons_of_mem _ member)]
      by_cases ends : isLineEnd c = true
      · rw [if_pos ends, here ends]
      · rw [if_neg ends]

/-- A text without carriage returns has universal line ends. -/
theorem universalNewlines_eq_self {text : Text} (clean : '\r' ∉ text) :
    universalNewlines text = text := by
  induction text with
  | nil => rfl
  | cons c rest ih =>
      obtain ⟨different, cleanRest⟩ := not_or.mp (mt List.mem_cons.mpr clean)
      rw [universalNewlines, if_neg (Ne.symm different), ih cleanRest]
      exact fun more returns _ => different returns.symm

/-- A text that no line end breaks. -/
def InLine (text : Text) : Prop := ∀ c ∈ text, isLineEnd c = false

instance (text : Text) : Decidable (InLine text) :=
  List.decidableBAll (fun c => isLineEnd c = false) text

theorem InLine.not_mem {text : Text} (inLine : InLine text) : '\n' ∉ text := by
  intro member
  exact absurd (inLine _ member) (by decide)

theorem InLine.head_ne {c : Char} {rest : Text} (inLine : InLine (c :: rest)) : c ≠ '\n' := by
  rintro rfl
  exact inLine.not_mem List.mem_cons_self

theorem InLine.getLast?_ne {text : Text} (inLine : InLine text) :
    text.getLast? ≠ Option.some '\r' := by
  intro last
  have final := inLine _ (List.mem_of_getLast? last)
  cases final

theorem InLine.getLast?_append_ne {text ending : Text} (inLine : InLine ending)
    (some : ending ≠ []) : (text ++ ending).getLast? ≠ Option.some '\r' := by
  have last := inLine.getLast?_ne
  rw [List.getLast?_eq_some_getLast some] at last
  rwa [List.getLast?_append, List.getLast?_eq_some_getLast some, Option.some_or]

theorem normalizeLineEnds_append {text : Text} (inLine : InLine text) (rest : Text) :
    normalizeLineEnds (text ++ rest) = text ++ normalizeLineEnds rest := by
  induction text with
  | nil => rfl
  | cons c more ih =>
      have here := inLine c List.mem_cons_self
      have single : c = '\r' → (more ++ rest).head? ≠ some '\n' := by
        rintro rfl
        cases here
      rw [List.cons_append, normalizeLineEnds_cons single,
        ih fun d member => inLine d (List.mem_cons_of_mem _ member), here]
      rfl

/-- No line end goes on across the start of a text that is no line feed. -/
theorem normalizeLineEnds_append_cons {c : Char} (inLine : c ≠ '\n') (text rest : Text) :
    normalizeLineEnds (text ++ c :: rest) =
      normalizeLineEnds text ++ normalizeLineEnds (c :: rest) := by
  induction text using normalizeLineEnds.induct with
  | case1 => rfl
  | case2 more ih =>
      rw [List.cons_append, List.cons_append, normalizeLineEnds, ih, normalizeLineEnds,
        List.cons_append]
  | case3 d more notPair ih =>
      have single : d = '\r' → more.head? ≠ some '\n' := by
        rintro rfl feed
        obtain ⟨rest, rfl⟩ := List.head?_eq_some_iff.mp feed
        exact notPair rest rfl rfl
      have singleBefore : d = '\r' → (more ++ c :: rest).head? ≠ some '\n' := by
        intro carriage
        cases more with
        | nil => simpa using inLine
        | cons e more => simpa using single carriage
      rw [List.cons_append, normalizeLineEnds_cons singleBefore, normalizeLineEnds_cons single, ih,
        List.cons_append]

/-! ## Both readings -/

theorem nest_concat_lineFeed (width : Nat) (text : Text) :
    nest width (text ++ ['\n']) = nest width text ++ ['\n'] := by
  have each : ∀ fresh, indentFrom width fresh (text ++ ['\n']) =
      indentFrom width fresh text ++ ['\n'] := by
    induction text with
    | nil => intro fresh; rfl
    | cons c rest ih =>
        intro fresh
        by_cases feed : c = '\n'
        · subst feed
          rw [List.cons_append, indentFrom_lineFeed, ih, indentFrom_lineFeed, List.cons_append]
        · rw [List.cons_append, indentFrom_cons feed, ih, indentFrom_cons feed, List.append_assoc,
            List.cons_append]
  rw [nest_eq_indentFrom, nest_eq_indentFrom, each]

/-- A final carriage return is taken together with the line feed that is added behind it, so the
line that it ends is not followed by an empty one. -/
theorem nest_normalizeLineEnds_concat (width : Nat) (text : Text) :
    nest width (normalizeLineEnds (text ++ ['\r'])) =
      indentLines width (text ++ ['\r']) ++ ['\n'] := by
  have indented : indentLines width (text ++ ['\r']) = nest width (normalizeLineEnds text) := by
    rw [indentLines, List.append_assoc]
    simp only [List.singleton_append]
    rw [lines_append_ending rfl (by simp), nest]
  have carriage : normalizeLineEnds ['\r'] = ['\n'] := rfl
  rw [normalizeLineEnds_append_cons (by decide), carriage, nest_concat_lineFeed, indented]

/-- Indenting at every kind of line end is indenting at line feeds once each line end has become
one, exactly if the text does not end in a carriage return. So on a text whose line ends are line
feeds there is no difference. -/
theorem indentLines_eq_nest_iff (width : Nat) (text : Text) :
    (indentLines width text = nest width (normalizeLineEnds text) ↔ text.getLast? ≠ some '\r') ∧
      ((∀ c ∈ text, isLineEnd c = true → c = '\n') →
        indentLines width text = nest width text) := by
  constructor
  · constructor
    · intro agree final
      obtain ⟨front, rfl⟩ := List.getLast?_eq_some_iff.mp final
      rw [nest_normalizeLineEnds_concat] at agree
      simpa using congrArg List.length agree
    · exact indentLines_eq_nest width
  · intro feeds
    have final : text.getLast? ≠ some '\r' := by
      intro carriage
      exact absurd (feeds '\r' (List.mem_of_getLast? carriage) rfl) (by decide)
    rw [indentLines_eq_nest width final, normalizeLineEnds_eq_self feeds]

/-- Pairs, lone carriage returns, separators and blank lines; blank lines at the end. -/
theorem indentLines_eq_nest_mixed :
    let mixed : Text := "\r\na\r\r\n\nb\u2028\x0c\x1c c\x85\n\n"
    let feeds : Text := "a\n\n  b\n\n\n"
    mixed.getLast? ≠ some '\r' ∧
      indentLines 2 mixed = nest 2 (normalizeLineEnds mixed) ∧
      indentLines 2 mixed = "\n  a\n\n\n  b\n\n\n   c\n\n\n".toList ∧
      (∀ c ∈ feeds, isLineEnd c = true → c = '\n') ∧
      indentLines 2 feeds = nest 2 feeds := by
  intro mixed feeds
  have isFeed : ∀ c ∈ feeds, isLineEnd c = true → c = '\n' :=
    @of_decide_eq_true _ (List.decidableBAll _ feeds) rfl
  exact ⟨by decide, (indentLines_eq_nest_iff 2 mixed).1.mpr (by decide), by decide, isFeed,
    (indentLines_eq_nest_iff 2 feeds).2 isFeed⟩

end Companion.Text
