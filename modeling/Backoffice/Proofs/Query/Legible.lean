import Backoffice.Proofs.Query.Lexeme
import Backoffice.Proofs.Query.Parts

/-!
The statement of a listing is legible.

A statement is put together from blocks, and a block after others begins with a text that divides
it from what stands before.
-/

namespace Backoffice

structure Divides (text : String) : Prop where
  plain : '"' ∉ text.toList
  ends : endsPlaceholder text.toList = true

theorem Divides.fits {text : String} (divides : Divides text) (part : SqlPart) :
    part.Fits (.fixed text) := by
  cases part with
  | fixed _ => trivial
  | number _ => trivial
  | identifier _ =>
    intro empty
    cases empty ▸ divides.ends
  | parameter _ _ => exact divides.ends

namespace SqlStatement

def Opens (statement : SqlStatement) : Prop :=
  ∀ part ∈ statement.head?, ∃ text, part = .fixed text ∧ Divides text

theorem opens_fixed {text : String} (divides : Divides text) (rest : SqlStatement) :
    Opens (.fixed text :: rest) := by
  intro part first
  cases first
  exact ⟨text, rfl, divides⟩

theorem opens_append {first second : SqlStatement} (opensFirst : first.Opens)
    (opensSecond : second.Opens) : Opens (first ++ second) := by
  cases first with
  | nil => exact opensSecond
  | cons part rest => exact opensFirst

theorem legible_nil : Legible [] where
  plain := nofun
  spaced := .nil

theorem legible_fixed {text : String} (plain : '"' ∉ text.toList) {rest : SqlStatement}
    (legible : rest.Legible) : Legible (.fixed text :: rest) where
  plain := by
    intro other member
    rcases List.mem_cons.1 member with same | later
    · cases same
      exact plain
    · exact legible.plain other later
  spaced := List.isChain_cons.2 ⟨fun _ _ => trivial, legible.spaced⟩

theorem legible_identifier (name : String) {text : String} (some : text ≠ "") {rest : SqlStatement}
    (legible : Legible (.fixed text :: rest)) :
    Legible (.identifier name :: .fixed text :: rest) where
  plain := by
    intro other member
    rcases List.mem_cons.1 member with same | later
    · cases same
    · exact legible.plain other later
  spaced := List.isChain_cons_cons.2 ⟨some, legible.spaced⟩

theorem legible_append {first second : SqlStatement} (legibleFirst : first.Legible)
    (legibleSecond : second.Legible) (opens : second.Opens) : Legible (first ++ second) where
  plain := by
    intro text member
    rcases List.mem_append.1 member with before | after
    · exact legibleFirst.plain text before
    · exact legibleSecond.plain text after
  spaced := by
    refine legibleFirst.spaced.append legibleSecond.spaced ?_
    -- What is left is the seam between the two.
    intro last _ next head
    obtain ⟨text, same, divides⟩ := opens next head
    subst same
    exact divides.fits last

theorem legible_separate {separator : String} (divides : Divides separator) :
    ∀ {statements : List SqlStatement}, (∀ statement ∈ statements, statement.Legible) →
      Legible (separate separator statements)
  | [], _ => legible_nil
  | [statement], legible => legible statement List.mem_cons_self
  | statement :: second :: rest, legible => by
    rw [List.forall_mem_cons] at legible
    rw [separate_cons_cons]
    exact legible_append legible.1
      (legible_fixed divides.plain (legible_separate divides legible.2)) (opens_fixed divides _)

end SqlStatement

namespace SelectQuery

open SqlStatement

theorem legible_clause {keyword separator : String} (plain : '"' ∉ keyword.toList)
    (divides : Divides separator) {items : List SqlStatement}
    (legible : ∀ item ∈ items, item.Legible) : Legible (clause keyword separator items) := by
  unfold clause
  split
  · exact legible_nil
  · exact legible_fixed plain (legible_separate divides legible)

theorem opens_clause {keyword : String} (divides : Divides keyword) (separator : String)
    (items : List SqlStatement) : Opens (clause keyword separator items) := by
  unfold clause
  split
  · nofun
  · exact opens_fixed divides _

theorem divides_comma : Divides ", " := ⟨by decide, by decide⟩

theorem divides_from : Divides " FROM " := ⟨by decide, by decide⟩

theorem divides_where : Divides " WHERE " := ⟨by decide, by decide⟩

theorem divides_and : Divides " AND " := ⟨by decide, by decide⟩

theorem divides_orderBy : Divides " ORDER BY " := ⟨by decide, by decide⟩

theorem divides_limit : Divides " LIMIT " := ⟨by decide, by decide⟩

theorem divides_offset : Divides " OFFSET " := ⟨by decide, by decide⟩

variable (query : SelectQuery)

theorem legible_selection : query.selection.Legible := by
  unfold selection
  split
  · exact legible_fixed (by decide) legible_nil
  · refine legible_separate divides_comma ?_
    intro statement member
    obtain ⟨column, _, same⟩ := List.mem_map.1 member
    subst same
    split
    · exact ⟨by simp, by simp [SqlPart.Fits]⟩
    · exact ⟨by simp, by simp⟩

theorem legible_source : query.source.Legible := by
  unfold source
  split
  · exact ⟨by simp, by simp [SqlPart.Fits]⟩
  · exact ⟨by simp, by simp⟩

theorem legible_comparison (filter : Filter) : (query.comparison filter).Legible := by
  rw [comparison]
  split
  · exact ⟨by simp [parameter], by simp [SqlPart.Fits, parameter]⟩
  · exact ⟨by simp [parameter], by simp [SqlPart.Fits, parameter]⟩
  · exact ⟨by simp [parameter], by simp [SqlPart.Fits, parameter]⟩
  · exact legible_fixed (by decide) legible_nil
  · next values _ _ =>
    have listed : Legible (separate ", "
        (values.map fun value => [query.parameter filter.field value])) := by
      refine legible_separate divides_comma ?_
      intro statement member
      obtain ⟨value, _, same⟩ := List.mem_map.1 member
      subst same
      exact ⟨by simp [parameter], by simp⟩
    have closing : Divides ")" := ⟨by decide, by decide⟩
    have closed := legible_append listed (legible_fixed closing.plain legible_nil)
      (opens_fixed closing [])
    rw [List.append_assoc]
    exact legible_identifier filter.field (by decide) (legible_fixed (by decide) closed)

theorem legible_sorting (term : OrderTerm) : (sorting term).Legible := by
  rw [sorting]
  cases term.direction with
  | asc => exact ⟨by simp, by simp [SqlPart.Fits]⟩
  | desc => exact ⟨by simp, by simp [SqlPart.Fits]⟩

theorem legible_cut {keyword : String} (divides : Divides keyword) (count : Option Nat)
    (value : Nat → Nat) :
    Legible (count.toList.flatMap fun count => [.fixed keyword, .number (value count)]) ∧
      Opens (count.toList.flatMap fun count => [.fixed keyword, .number (value count)]) := by
  cases count with
  | none => exact ⟨legible_nil, nofun⟩
  | some count =>
    refine ⟨legible_fixed divides.plain ⟨by simp, by simp⟩, opens_fixed divides _⟩

theorem legible_selects : query.selects.Legible :=
  legible_fixed (by decide) query.legible_selection

theorem legible_sources : query.sources.Legible :=
  legible_fixed divides_from.plain query.legible_source

theorem legible_wheres : query.wheres.Legible := by
  refine legible_clause divides_where.plain divides_and ?_
  intro statement member
  obtain ⟨filter, _, same⟩ := List.mem_map.1 member
  exact same ▸ query.legible_comparison filter

theorem legible_orders : query.orders.Legible := by
  refine legible_clause divides_orderBy.plain divides_comma ?_
  intro statement member
  obtain ⟨term, _, same⟩ := List.mem_map.1 member
  exact same ▸ legible_sorting term

theorem legible_closing : query.closing.Legible ∧ query.closing.Opens := by
  have limit := legible_cut divides_limit query.limit (min · maxLimit)
  have offset := legible_cut divides_offset query.offset id
  exact ⟨legible_append limit.1 offset.1 offset.2, opens_append limit.2 offset.2⟩

theorem legible_build : query.build.Legible := by
  have read := legible_append query.legible_selects query.legible_sources
    (opens_fixed divides_from _)
  have filtered := legible_append read query.legible_wheres (opens_clause divides_where _ _)
  have sorted := legible_append filtered query.legible_orders (opens_clause divides_orderBy _ _)
  rw [build_eq]
  exact legible_append sorted query.legible_closing.1 query.legible_closing.2

end SelectQuery

end Backoffice
