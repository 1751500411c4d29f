import Companion.Syntax.Module
import Mathlib.Data.List.Nodup
import Mathlib.Data.List.Sort

/-!
# Comments in front of statements

In a module whose comments and statements stand apart, a comment leads at most one statement: the
first one behind it, and only if nothing but blanks and comments lies between the two. Put together in
the order of the statements, the comments that lead some statement are therefore those of the module
in their own order, each of them once.
-/

set_option autoImplicit false

namespace Companion.Syntax.Module

/-- Comments do not overlap, statements begin one behind the other, and each of them begins with a
character that is neither blank nor part of a comment. -/
structure IsLaidOut (source : Module) : Prop where
  comments : source.comments.Pairwise fun before after => before.stop ≤ after.start
  covers : ∀ comment ∈ source.comments, comment.start < comment.stop
  statements : source.statements.Pairwise fun before after => before.start < after.start
  visible : ∀ statement ∈ source.statements,
    ∃ c ∈ source.text[statement.start]?, isAsciiBlank c = false
  outside : ∀ statement ∈ source.statements, ∀ comment ∈ source.comments,
    ¬(comment.start ≤ statement.start ∧ statement.start < comment.stop)

-- The character at a place is looked up: a quantifier over characters is decided by trying them all.
instance (source : Module) : Decidable source.IsLaidOut :=
  have visible : (∀ statement ∈ source.statements,
        source.text[statement.start]?.any (!isAsciiBlank ·) = true) ↔
      ∀ statement ∈ source.statements,
        ∃ c ∈ source.text[statement.start]?, isAsciiBlank c = false := by
    simp [Option.any_eq_true]
  decidable_of_iff
    ((source.comments.Pairwise fun before after => before.stop ≤ after.start) ∧
      (∀ comment ∈ source.comments, comment.start < comment.stop) ∧
      (source.statements.Pairwise fun before after => before.start < after.start) ∧
      (∀ statement ∈ source.statements,
        source.text[statement.start]?.any (!isAsciiBlank ·) = true) ∧
      ∀ statement ∈ source.statements, ∀ comment ∈ source.comments,
        ¬(comment.start ≤ statement.start ∧ statement.start < comment.stop))
    ⟨fun ⟨comments, covers, statements, seen, outside⟩ =>
        ⟨comments, covers, statements, visible.1 seen, outside⟩,
      fun laid =>
        ⟨laid.comments, laid.covers, laid.statements, visible.2 laid.visible, laid.outside⟩⟩

/-- Every character of a stretch of the text is an ASCII blank or belongs to a comment. -/
def IsIdleBetween (source : Module) (start stop : Nat) : Prop :=
  ∀ place, start ≤ place → place < stop →
    (∀ c ∈ source.text[place]?, isAsciiBlank c = true) ∨
      ∃ comment ∈ source.comments, comment.start ≤ place ∧ place < comment.stop

def IsFirstBehind (source : Module) (statement : Statement) (comment : Comment) : Prop :=
  comment.stop ≤ statement.start ∧
    ∀ other ∈ source.statements, comment.stop ≤ other.start → statement.start ≤ other.start

/-- Whether a comment leads some statement. -/
def leads (source : Module) (comment : Comment) : Bool :=
  source.statements.any fun statement => comment ∈ source.commentsBefore statement

variable {source : Module} {statement : Statement} {comment : Comment}

theorem leads_iff : source.leads comment = true ↔
    ∃ statement ∈ source.statements, comment ∈ source.commentsBefore statement := by
  simp [leads]

theorem isBlankBetween_iff {start stop : Nat} : source.isBlankBetween start stop = true ↔
    ∀ place, start ≤ place → place < stop → ∀ c ∈ source.text[place]?, isAsciiBlank c = true := by
  rw [isBlankBetween, List.all_eq_true]
  constructor
  · intro blank place behind before c found
    apply blank
    apply List.mem_of_getElem? (i := place - start)
    rw [List.getElem?_take_of_lt (by omega), List.getElem?_drop, Nat.add_sub_of_le behind]
    exact found
  · intro blank c member
    obtain ⟨index, found⟩ := List.mem_iff_getElem?.mp member
    have inside : index < stop - start := by
      by_contra outside
      rw [List.getElem?_eq_none (by simp; omega)] at found
      cases found
    rw [List.getElem?_take_of_lt inside, List.getElem?_drop] at found
    exact blank (start + index) (by omega) (by omega) c found

/-! ## The chain of comments in front of a place -/

/-- The comments of a list that are met going back from a place over blanks, the nearest one first. -/
def nearest (source : Module) : Nat → List Comment → List Comment
  | _, [] => []
  | place, comment :: before =>
    if source.isBlankBetween comment.stop place then
      comment :: source.nearest comment.start before
    else []

theorem commentChain_eq (place : Nat) (found before : List Comment) :
    source.commentChain place found before = (source.nearest place before).reverse ++ found := by
  induction before generalizing place found with
  | nil => rfl
  | cons comment before ih =>
      rw [commentChain, nearest]
      split
      · rw [ih, List.reverse_cons, List.append_assoc, List.singleton_append]
      · rfl

theorem nearest_sublist (place : Nat) (before : List Comment) :
    (source.nearest place before).Sublist before := by
  induction before generalizing place with
  | nil => exact .slnil
  | cons comment before ih =>
      rw [nearest]
      split
      · exact (ih comment.start).cons_cons comment
      · exact List.nil_sublist _

/-- Where no comment lies, nothing but blanks is idle. -/
theorem isIdleBetween_iff_isBlankBetween {start stop : Nat}
    (apart : ∀ other ∈ source.comments, other.stop ≤ start ∨ stop ≤ other.start) :
    source.IsIdleBetween start stop ↔ source.isBlankBetween start stop = true := by
  rw [isBlankBetween_iff]
  constructor
  · intro idle place behind front
    cases idle place behind front with
    | inl blank => exact blank
    | inr inComment =>
        obtain ⟨other, member, opens, closes⟩ := inComment
        cases apart other member with
        | inl earlier => exact absurd (earlier.trans behind) closes.not_ge
        | inr later => exact absurd (later.trans opens) front.not_ge
  · intro blank place behind front
    exact .inl (blank place behind front)

/-- A way is idle if it is so up to a comment on it and from there on. -/
theorem isIdleBetween_iff_around {start stop : Nat} (member : comment ∈ source.comments)
    (covers : comment.start < comment.stop) (startsBefore : start ≤ comment.start)
    (stopsBehind : comment.stop ≤ stop) : source.IsIdleBetween start stop ↔
      source.IsIdleBetween start comment.start ∧ source.IsIdleBetween comment.stop stop := by
  constructor
  · intro idle
    exact ⟨fun place behind front => idle place behind (front.trans (covers.trans_le stopsBehind)),
      fun place behind front => idle place (startsBefore.trans (covers.le.trans behind)) front⟩
  · intro idle place behind front
    by_cases inFront : place < comment.start
    · exact idle.1 place behind inFront
    by_cases inside : place < comment.stop
    · exact .inr ⟨comment, member, Nat.le_of_not_lt inFront, inside⟩
    · exact idle.2 place (Nat.le_of_not_lt inside) front

/-- Going back from a place reaches exactly the comments from which only blanks and comments lead to
it. The induction is on the comments in front of the place; those behind it are kept, because a
character of the way might belong to any comment of the module. -/
theorem mem_nearest_iff (laid : source.IsLaidOut) {place : Nat} {before after : List Comment}
    (all : source.comments = before.reverse ++ after)
    (ends : ∀ other ∈ before, other.stop ≤ place) (begins : ∀ other ∈ after, place ≤ other.start) :
    comment ∈ source.nearest place before ↔
      comment ∈ before ∧ source.IsIdleBetween comment.stop place := by
  induction before generalizing place after with
  | nil => simp [nearest]
  | cons last before ih =>
      have split : source.comments = before.reverse ++ last :: after := by
        rw [all, List.reverse_cons, List.append_assoc, List.singleton_append]
      have isComment : last ∈ source.comments := by simp [all]
      have covered : last.start < last.stop := laid.covers last isComment
      obtain ⟨-, lastFirst, apart⟩ := List.pairwise_append.mp (split ▸ laid.comments)
      have earlier : ∀ other ∈ before, other.stop ≤ last.start := fun other member =>
        apart other (List.mem_reverse.mpr member) last List.mem_cons_self
      have later : ∀ other ∈ after, last.stop ≤ other.start := (List.pairwise_cons.mp lastFirst).1
      have free : source.IsIdleBetween last.stop place ↔
          source.isBlankBetween last.stop place = true := by
        refine isIdleBetween_iff_isBlankBetween fun other member => ?_
        rw [split, List.mem_append, List.mem_reverse, List.mem_cons] at member
        rcases member with isEarlier | rfl | isLater
        · exact .inl ((earlier other isEarlier).trans covered.le)
        · exact .inl (Nat.le_refl _)
        · exact .inr (begins other isLater)
      have through : ∀ start ≤ last.start, source.IsIdleBetween start place ↔
          source.IsIdleBetween start last.start ∧ source.IsIdleBetween last.stop place :=
        fun start startsBefore => isIdleBetween_iff_around isComment covered startsBefore
          (ends last List.mem_cons_self)
      have rest := @ih last.start (last :: after) split earlier
        (by simpa using fun other member => covered.le.trans (later other member))
      rw [nearest, List.mem_cons]
      by_cases blank : source.isBlankBetween last.stop place = true
      · have idle := free.mpr blank
        rw [if_pos blank, List.mem_cons, rest, or_and_right]
        refine or_congr ?_ (and_congr_right fun member => ?_)
        · exact (and_iff_left_of_imp fun same => same ▸ idle).symm
        · rw [through _ (earlier _ member), and_iff_left idle]
      · have busy := mt free.mp blank
        rw [if_neg blank]
        refine iff_of_false List.not_mem_nil ?_
        rintro ⟨same | member, way⟩
        · exact busy (same ▸ way)
        · exact busy ((through _ (earlier _ member)).mp way).2

/-! ## Leading comments -/

theorem commentsBefore_sublist : (source.commentsBefore statement).Sublist source.comments := by
  rw [commentsBefore, commentChain_eq, List.append_nil]
  have reversed := (source.nearest_sublist statement.start
    (source.comments.filter fun comment => comment.stop ≤ statement.start).reverse).reverse
  rw [List.reverse_reverse] at reversed
  exact reversed.trans List.filter_sublist

/-- The members of an ordered list with a property that earlier members share open the list. -/
private theorem filter_append_filter_not {α : Type} {holds : α → Bool} {items : List α}
    (ordered : items.Pairwise fun before after => holds after = true → holds before = true) :
    items.filter holds ++ items.filter (!holds ·) = items := by
  induction items with
  | nil => rfl
  | cons item rest ih =>
      obtain ⟨first, others⟩ := List.pairwise_cons.mp ordered
      cases decision : holds item with
      | true => simp [decision, ih others]
      | false =>
          have none : rest.filter holds = [] := by
            rw [List.filter_eq_nil_iff]
            intro other member held
            rw [first other member held] at decision
            cases decision
          have rest := ih others
          rw [none, List.nil_append] at rest
          simp [decision, none, rest]

namespace IsLaidOut

variable (laid : source.IsLaidOut)

include laid

/-- A comment leads a statement exactly when the statement is the first one behind the comment and
only ASCII blanks and comments lie between them. -/
theorem mem_commentsBefore_iff (isStatement : statement ∈ source.statements) :
    comment ∈ source.commentsBefore statement ↔
      comment ∈ source.comments ∧ source.IsFirstBehind statement comment ∧
        source.IsIdleBetween comment.stop statement.start := by
  have ordered : source.comments.Pairwise fun before after =>
      decide (after.stop ≤ statement.start) = true →
        decide (before.stop ≤ statement.start) = true := by
    apply laid.comments.imp_of_mem
    intro before after _ isAfter apart ends
    have := laid.covers after isAfter
    simp only [decide_eq_true_eq] at ends ⊢
    omega
  have split := (filter_append_filter_not ordered).symm
  rw [commentsBefore, commentChain_eq, List.append_nil, List.mem_reverse]
  have met := @mem_nearest_iff source comment laid statement.start _ _
    (by rw [List.reverse_reverse]; exact split) (by simp) (by
      intro other member
      have outside := laid.outside statement isStatement other (List.mem_filter.mp member).1
      have ends := (List.mem_filter.mp member).2
      simp only [Bool.not_eq_true', decide_eq_false_iff_not] at ends
      omega)
  rw [met, List.mem_reverse, List.mem_filter, decide_eq_true_eq]
  constructor
  · intro leading
    obtain ⟨⟨member, ends⟩, idle⟩ := leading
    refine ⟨member, ⟨ends, ?_⟩, idle⟩
    intro other isOther behind
    by_contra before
    -- the other statement would begin on the way, with a character that is not idle
    obtain ⟨c, found, notBlank⟩ := laid.visible other isOther
    cases idle other.start behind (by omega) with
    | inl blank =>
        rw [blank c found] at notBlank
        cases notBlank
    | inr inComment =>
        obtain ⟨around, isComment, inside⟩ := inComment
        exact laid.outside other isOther around isComment inside
  · intro leading
    exact ⟨⟨leading.1, leading.2.1.1⟩, leading.2.2⟩

theorem eq_of_start_eq {other : Statement} (isStatement : statement ∈ source.statements)
    (isOther : other ∈ source.statements) (same : statement.start = other.start) :
    statement = other := by
  have distinct : (source.statements.map (·.start)).Nodup :=
    List.pairwise_map.mpr (laid.statements.imp Nat.ne_of_lt)
  exact List.inj_on_of_nodup_map distinct isStatement isOther same

/-- No comment leads two statements. -/
theorem eq_of_mem_commentsBefore {other : Statement} (isStatement : statement ∈ source.statements)
    (isOther : other ∈ source.statements) (leadsOne : comment ∈ source.commentsBefore statement)
    (leadsOther : comment ∈ source.commentsBefore other) : statement = other := by
  obtain ⟨-, first, -⟩ := (laid.mem_commentsBefore_iff isStatement).mp leadsOne
  obtain ⟨-, firstOther, -⟩ := (laid.mem_commentsBefore_iff isOther).mp leadsOther
  apply laid.eq_of_start_eq isStatement isOther
  exact Nat.le_antisymm (first.2 other isOther firstOther.1)
    (firstOther.2 statement isStatement first.1)

theorem comments_ascending :
    source.comments.Pairwise fun before after => before.start < after.start := by
  apply laid.comments.imp_of_mem
  intro before after isBefore _ apart
  exact (laid.covers before isBefore).trans_le apart

omit laid in
private theorem eq_of_ascending {left right : List Comment}
    (leftAscends : left.Pairwise fun before after => before.start < after.start)
    (rightAscends : right.Pairwise fun before after => before.start < after.start)
    (same : ∀ comment, comment ∈ left ↔ comment ∈ right) : left = right := by
  have : Std.Irrefl fun before after : Comment => before.start < after.start :=
    ⟨fun comment => Nat.lt_irrefl comment.start⟩
  exact leftAscends.eq_of_mem_iff rightAscends same

/-- The comments in front of all statements, one statement after the other, are the comments that lead
some statement, in the order in which they stand in the module. -/
theorem flatMap_commentsBefore :
    source.statements.flatMap source.commentsBefore = source.comments.filter source.leads := by
  have ascending : (source.statements.flatMap source.commentsBefore).Pairwise
      fun before after => before.start < after.start := by
    rw [List.pairwise_flatMap]
    refine ⟨fun _ _ => laid.comments_ascending.sublist commentsBefore_sublist, ?_⟩
    apply laid.statements.imp_of_mem
    intro before after isBefore isAfter starts first isFirst second isSecond
    obtain ⟨isComment, ⟨ends, -⟩, -⟩ := (laid.mem_commentsBefore_iff isBefore).mp isFirst
    obtain ⟨isOther, ⟨-, behind⟩, -⟩ := (laid.mem_commentsBefore_iff isAfter).mp isSecond
    have covered := laid.covers first isComment
    -- the second comment begins behind the statement that the first one leads
    have outside := laid.outside before isBefore second isOther
    have notBehind := behind before isBefore
    omega
  apply eq_of_ascending ascending (laid.comments_ascending.filter _)
  intro comment
  rw [List.mem_flatMap, List.mem_filter, leads_iff]
  constructor
  · intro leading
    obtain ⟨statement, isStatement, member⟩ := leading
    exact ⟨commentsBefore_sublist.subset member, statement, isStatement, member⟩
  · intro leading
    exact leading.2

/-- Seen from the comments of the module, those in front of one statement. -/
theorem commentsBefore_eq_filter :
    source.commentsBefore statement =
      source.comments.filter (· ∈ source.commentsBefore statement) := by
  apply eq_of_ascending (laid.comments_ascending.sublist commentsBefore_sublist)
    (laid.comments_ascending.filter _)
  intro comment
  rw [List.mem_filter, decide_eq_true_eq]
  exact ⟨fun member => ⟨commentsBefore_sublist.subset member, member⟩, And.right⟩

end IsLaidOut

end Companion.Syntax.Module
