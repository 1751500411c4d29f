import Companion.Directive
import Companion.Proofs.Failure
import Companion.Proofs.Syntax.Comments

/-!
# Directives and the statements they are attached to

A directive stands at a site: a place in the body of a comment at which a tag with the right name
begins. The sites of a module have an order. Reading its annotated statements means reading the sites
whose comments lead some statement, one after the other in this order and each of them once, and it
fails at the first of them that is malformed.
-/

set_option autoImplicit false

namespace Companion

namespace DocComment

/-- A tag as it stands in a comment body. -/
def Tag.source (tag : Tag) : Text := '@' :: tag.name ++ tag.payload

/-- The text in front of the first tag and the tags are the whole text. -/
theorem readTags_source (opens : Bool) (above : Nat) (text : Text) :
    (readTags opens above text).1 ++ (readTags opens above text).2.flatMap Tag.source = text := by
  induction text generalizing opens above with
  | nil => rfl
  | cons c rest ih =>
      have rest' := ih (isBlank c) (if c = '\n' then above + 1 else above)
      rw [readTags]
      split
      · next text tags read =>
        rw [read] at rest'
        split
        · next found =>
          obtain ⟨⟨-, rfl⟩, -⟩ : (opens = true ∧ c = '@') ∧ _ := by simpa using found
          rw [List.flatMap_cons, Tag.source, List.nil_append, List.cons_append, List.cons_append,
            List.takeWhile_append_dropWhile, rest']
        · rw [List.cons_append, rest']

/-- Tags with the places at which they stand, given the place of the first one. -/
def placed : Nat → List Tag → List (Nat × Tag)
  | _, [] => []
  | place, tag :: rest => (place, tag) :: placed (place + tag.source.length) rest

theorem le_of_mem_placed {start : Nat} {tags : List Tag} {entry : Nat × Tag}
    (member : entry ∈ placed start tags) : start ≤ entry.1 := by
  induction tags generalizing start with
  | nil => cases member
  | cons tag rest ih =>
      cases member with
      | head => exact Nat.le_refl start
      | tail _ member => exact (Nat.le_add_right start _).trans (ih member)

theorem placed_ascending (start : Nat) (tags : List Tag) :
    (placed start tags).Pairwise fun before after => before.1 < after.1 := by
  induction tags generalizing start with
  | nil => exact .nil
  | cons tag rest ih =>
      refine .cons ?_ (ih _)
      intro entry member
      have := le_of_mem_placed member
      simp only [Tag.source, List.cons_append, List.length_cons] at this
      omega

/-- The tags of a comment with their places in its body. -/
def placedTags (comment : Text) : List (Nat × Tag) :=
  match body comment with
  | none => []
  | some body => placed (readTags true 0 body).1.length (tags body)

theorem map_snd_placed (start : Nat) (tags : List Tag) : (placed start tags).map (·.2) = tags := by
  induction tags generalizing start with
  | nil => rfl
  | cons tag rest ih => rw [placed, List.map_cons, ih]

end DocComment

namespace Directive

structure Site where
  comment : Syntax.Comment
  place : Nat
  tag : DocComment.Tag

namespace Site

def location (path : Text) (site : Site) : Location :=
  tagLocation ⟨path, some site.comment.line⟩ site.tag

def read (path : Text) (site : Site) : Except Failure Directive :=
  ofPayload site.tag.payload (site.location path)

def IsMalformed (site : Site) : Prop := payloadNames site.tag.payload.collapse = none

/-- Source order. -/
def Precedes (site other : Site) : Prop :=
  site.comment.stop ≤ other.comment.start ∨
    site.comment = other.comment ∧ site.place < other.place

theorem of?_read_eq_some_iff {path : Text} {site : Site} {failure : Failure} :
    Failure.of? (site.read path) = some failure ↔
      site.IsMalformed ∧ failure = .malformedDirective site.tag.payload (site.location path) := by
  unfold read ofPayload IsMalformed
  cases payloadNames site.tag.payload.collapse with
  | none => simp [eq_comm]
  | some names => simp

theorem of?_read_eq_none_iff {path : Text} {site : Site} :
    Failure.of? (site.read path) = none ↔ ¬site.IsMalformed := by
  unfold read ofPayload IsMalformed
  cases payloadNames site.tag.payload.collapse with
  | none => simp
  | some names => simp

end Site

/-- The sites of the directives of a comment, which are those tags that are named `name`. -/
def sitesIn (name : Text) (comment : Syntax.Comment) : List Site :=
  ((DocComment.placedTags comment.text).filter (·.2.name = name)).map fun entry =>
    ⟨comment, entry.1, entry.2⟩

theorem comment_of_mem_sitesIn {name : Text} {comment : Syntax.Comment} {site : Site}
    (member : site ∈ sitesIn name comment) : site.comment = comment := by
  obtain ⟨entry, -, made⟩ := List.mem_map.mp member
  exact made ▸ rfl

theorem sitesIn_ascending (name : Text) (comment : Syntax.Comment) :
    (sitesIn name comment).Pairwise Site.Precedes := by
  have places : (DocComment.placedTags comment.text).Pairwise fun before after =>
      before.1 < after.1 := by
    unfold DocComment.placedTags
    split
    · exact .nil
    · exact DocComment.placed_ascending _ _
  rw [sitesIn, List.pairwise_map]
  exact (places.filter _).imp fun before => .inr ⟨rfl, before⟩

/-- Reading a comment is reading its sites. -/
theorem ofComment_eq (name path : Text) (comment : Syntax.Comment) :
    ofComment name comment.text ⟨path, some comment.line⟩ =
      (sitesIn name comment).mapM (·.read path) := by
  rw [sitesIn, List.mapM_map, DocComment.placedTags, ofComment]
  cases DocComment.body comment.text with
  | none => rfl
  | some body =>
      have tags := (DocComment.map_snd_placed (DocComment.readTags true 0 body).1.length
        (DocComment.tags body)).symm
      dsimp only
      conv_lhs => rw [tags, List.filter_map, List.mapM_map]
      rfl

end Directive

namespace Syntax.Module

open Directive

variable {source : Module}

def directiveSites (source : Module) (name : Text) : List Site :=
  source.comments.flatMap (sitesIn name)

theorem IsLaidOut.directiveSites_ascending (laid : source.IsLaidOut) (name : Text) :
    (source.directiveSites name).Pairwise Site.Precedes := by
  rw [directiveSites, List.pairwise_flatMap]
  refine ⟨fun comment _ => sitesIn_ascending name comment, ?_⟩
  apply laid.comments.imp
  intro before after apart site isSite other isOther
  rw [← comment_of_mem_sitesIn isSite, ← comment_of_mem_sitesIn isOther] at apart
  exact .inl apart

theorem flatMap_sitesIn_filter (name : Text) (chosen : Comment → Bool) (comments : List Comment) :
    (comments.filter chosen).flatMap (sitesIn name) =
      (comments.flatMap (sitesIn name)).filter (chosen ·.comment) := by
  induction comments with
  | nil => rfl
  | cons comment rest ih =>
      have own : ∀ site ∈ sitesIn name comment, chosen site.comment = chosen comment :=
        fun site member => congrArg chosen (comment_of_mem_sitesIn member)
      rw [List.flatMap_cons, List.filter_append, ← ih]
      cases decision : chosen comment with
      | true =>
          have all : (sitesIn name comment).filter (chosen ·.comment) = sitesIn name comment :=
            List.filter_eq_self.mpr fun site member => (own site member).trans decision
          rw [List.filter_cons_of_pos decision, List.flatMap_cons, all]
      | false =>
          have none : (sitesIn name comment).filter (chosen ·.comment) = [] :=
            List.filter_eq_nil_iff.mpr fun site member => by simp [own site member, decision]
          rw [List.filter_cons_of_neg (by simp [decision]), none, List.nil_append]

theorem directivesOf_eq (name : Text) (statement : Statement) :
    source.directivesOf name statement =
      ((source.commentsBefore statement).flatMap (sitesIn name)).mapM (·.read source.path) := by
  simp only [directivesOf, ofComment_eq, Failure.mapM_flatMap]
  rfl

/-- The directives of the annotated statements, read all together. -/
theorem map_directives_annotatedIn (name : Text) (statements : List Statement) :
    (source.annotatedIn name statements).map (fun marked => marked.flatMap (·.directives)) =
      ((statements.flatMap source.commentsBefore).flatMap (sitesIn name)).mapM
        (·.read source.path) := by
  induction statements with
  | nil => rfl
  | cons statement rest ih =>
      rw [annotatedIn, List.flatMap_cons, List.flatMap_append, List.mapM_append, ← ih,
        directivesOf_eq]
      cases ((source.commentsBefore statement).flatMap (sitesIn name)).mapM (·.read source.path) with
      | error failure => rfl
      | ok directives =>
          cases source.annotatedIn name rest with
          | error failure => rfl
          | ok more =>
              cases directives with
              | nil => rfl
              | cons directive others => rfl

theorem annotatedIn_eq_ok {name : Text} {statements : List Statement}
    {marked : List MarkedStatement} (found : source.annotatedIn name statements = .ok marked) :
    (marked.map (·.statement)).Sublist statements ∧
      ∀ statement ∈ marked, statement.directives ≠ [] ∧
        source.directivesOf name statement.statement = .ok statement.directives := by
  induction statements generalizing marked with
  | nil =>
      cases found
      exact ⟨.slnil, fun _ member => nomatch member⟩
  | cons first rest ih =>
      rw [annotatedIn, Failure.bind_eq_ok_iff] at found
      obtain ⟨directives, areDirectives, found⟩ := found
      rw [Failure.bind_eq_ok_iff] at found
      obtain ⟨more, areMore, found⟩ := found
      obtain ⟨sublist, each⟩ := ih areMore
      cases directives with
      | nil =>
          cases found
          exact ⟨sublist.cons first, each⟩
      | cons directive others =>
          cases found
          refine ⟨sublist.cons_cons first, List.forall_mem_cons.mpr ⟨⟨?_, areDirectives⟩, each⟩⟩
          exact List.cons_ne_nil directive others

/-- How the directives of a module are attached to its statements. -/
structure AttachesDirectives (source : Module) (name : Text) : Prop where
  /-- No comment leads two statements. -/
  once : ∀ statement ∈ source.statements, ∀ other ∈ source.statements, ∀ comment,
    comment ∈ source.commentsBefore statement → comment ∈ source.commentsBefore other →
      statement = other
  /-- A comment leads the first statement behind it, over blanks and comments. -/
  leading : ∀ statement ∈ source.statements, ∀ comment,
    comment ∈ source.commentsBefore statement ↔
      comment ∈ source.comments ∧ source.IsFirstBehind statement comment ∧
        source.IsIdleBetween comment.stop statement.start
  /-- The sites of directives stand in source order, each once. -/
  ordered : (source.directiveSites name).Pairwise Site.Precedes
  /-- Annotated statements are in source order, and their directives are those of the sites in
  comments that lead some statement; each statement has those of its own comments. -/
  found : ∀ marked, source.annotated name = .ok marked →
    (marked.map (·.statement)).Sublist source.statements ∧
    ((source.directiveSites name).filter (source.leads ·.comment)).mapM (·.read source.path) =
      .ok (marked.flatMap (·.directives)) ∧
    ∀ statement ∈ marked, statement.directives ≠ [] ∧
      ((source.directiveSites name).filter
        (·.comment ∈ source.commentsBefore statement.statement)).mapM (·.read source.path) =
          .ok statement.directives
  /-- A failure is that of the first malformed directive in a comment that leads some statement. -/
  fails : ∀ failure, source.annotated name = .error failure ↔
    ∃ before site after,
      (source.directiveSites name).filter (source.leads ·.comment) = before ++ site :: after ∧
      (∀ earlier ∈ before, ¬earlier.IsMalformed) ∧ site.IsMalformed ∧
      failure = .malformedDirective site.tag.payload (site.location source.path)

/-- In a module that is laid out each directive is attached once, to the statement below it. -/
theorem attachesDirectives_of_isLaidOut (laid : source.IsLaidOut) (name : Text) :
    source.AttachesDirectives name := by
  have together : (source.annotatedIn name source.statements).map
      (fun marked => marked.flatMap (·.directives)) = _ :=
    map_directives_annotatedIn name source.statements
  -- statement by statement, the sites that are read are those of leading comments in source order
  rw [laid.flatMap_commentsBefore, flatMap_sitesIn_filter] at together
  refine ⟨?_, ?_, laid.directiveSites_ascending name, ?_, ?_⟩
  · intro statement isStatement other isOther comment
    exact laid.eq_of_mem_commentsBefore isStatement isOther
  · intro statement isStatement comment
    exact laid.mem_commentsBefore_iff isStatement
  · intro marked found
    obtain ⟨sublist, each⟩ := annotatedIn_eq_ok found
    rw [show source.annotatedIn name source.statements = .ok marked from found] at together
    refine ⟨sublist, together.symm, ?_⟩
    intro statement member
    obtain ⟨some, directives⟩ := each statement member
    rw [directivesOf_eq, laid.commentsBefore_eq_filter, flatMap_sitesIn_filter] at directives
    exact ⟨some, directives⟩
  · intro failure
    have failed : source.annotated name = .error failure ↔
        Failure.of? (((source.directiveSites name).filter (source.leads ·.comment)).mapM
          (·.read source.path)) = some failure := by
      rw [Failure.of?_eq_some_iff, directiveSites, ← together, annotated]
      cases source.annotatedIn name source.statements with
      | error other => simp [Except.map]
      | ok marked => simp [Except.map]
    simp only [failed, Failure.of?_mapM, List.findSome?_eq_some_iff, Site.of?_read_eq_some_iff,
      Site.of?_read_eq_none_iff]
    constructor
    · intro first
      obtain ⟨before, site, after, all, ⟨malformed, same⟩, earlier⟩ := first
      exact ⟨before, site, after, all, earlier, malformed, same⟩
    · intro first
      obtain ⟨before, site, after, all, earlier, malformed, same⟩ := first
      exact ⟨before, site, after, all, ⟨malformed, same⟩, earlier⟩

/-- The first comment stands at the end of the statement before, and the last one leads nothing. -/
def tailModule : Module :=
  .read "src/a.ppx.ts" ("const n = 1; /** @ts-ppx(zod) */\n// kept\n" ++
    "/** @ts-ppx(fast-check) @ts-ppx(zod) */\nexport type A = string;\n/** @ts-ppx(zod) */\n")

theorem attachesDirectives_tailModule :
    tailModule.IsLaidOut ∧ tailModule.statements.length = 2 ∧
      tailModule.comments.map tailModule.leads = [true, true, true, false] ∧
      tailModule.AttachesDirectives "ts-ppx" := by
  obtain ⟨laid, two, leading⟩ : tailModule.IsLaidOut ∧ tailModule.statements.length = 2 ∧
      tailModule.comments.map tailModule.leads = [true, true, true, false] := by decide +kernel
  exact ⟨laid, two, leading, attachesDirectives_of_isLaidOut laid "ts-ppx"⟩

end Syntax.Module

end Companion
