import Dbml.Naming
import Dbml.Schema.Json

/-!
# Decorators

Decorators mark classes and properties.  A file imports the kinds of decorators that are used in it,
each once and in one order for all files.
-/

namespace Dbml.TypeOrm

/-- The decorators that a file can import, in the order in which it does. -/
inductive DecoratorKind where
  | entity
  | column
  | primaryColumn
  | primaryGeneratedColumn
  | createDateColumn
  | updateDateColumn
  | deleteDateColumn
  | oneToOne
  | oneToMany
  | manyToOne
  | joinColumn
  deriving DecidableEq, Repr

namespace DecoratorKind

/-- The place of a decorator in the order. -/
def rank (kind : DecoratorKind) : Nat :=
  kind.ctorIdx

theorem rank_injective : ∀ a b : DecoratorKind, a.rank = b.rank → a = b := by
  intro a b
  cases a <;> cases b <;> decide

/-- The name under which a decorator is imported. -/
def name : DecoratorKind → String
  | .entity => "Entity"
  | .column => "Column"
  | .primaryColumn => "PrimaryColumn"
  | .primaryGeneratedColumn => "PrimaryGeneratedColumn"
  | .createDateColumn => "CreateDateColumn"
  | .updateDateColumn => "UpdateDateColumn"
  | .deleteDateColumn => "DeleteDateColumn"
  | .oneToOne => "OneToOne"
  | .oneToMany => "OneToMany"
  | .manyToOne => "ManyToOne"
  | .joinColumn => "JoinColumn"

/-- A list in the order of its members with a decorator put into it, unless it is there. -/
def insertInto (kind : DecoratorKind) : List DecoratorKind → List DecoratorKind
  | [] => [kind]
  | first :: rest =>
    if kind.rank < first.rank then kind :: first :: rest
    else if first.rank < kind.rank then first :: insertInto kind rest
    else first :: rest

theorem mem_insertInto {kind other : DecoratorKind} {kinds : List DecoratorKind} :
    other ∈ insertInto kind kinds ↔ other = kind ∨ other ∈ kinds := by
  induction kinds with
  | nil => simp [insertInto]
  | cons first rest ih =>
    rw [insertInto]
    split
    · exact List.mem_cons
    · split
      · rw [List.mem_cons, List.mem_cons, ih]
        exact or_left_comm
      · obtain rfl : kind = first := rank_injective kind first (by omega)
        simp

theorem pairwise_insertInto {kind : DecoratorKind} {kinds : List DecoratorKind}
    (h : kinds.Pairwise (·.rank < ·.rank)) :
    (insertInto kind kinds).Pairwise (·.rank < ·.rank) := by
  induction kinds with
  | nil => exact List.pairwise_singleton _ kind
  | cons first rest ih =>
    obtain ⟨hfirst, hrest⟩ := List.pairwise_cons.mp h
    rw [insertInto]
    split
    · rename_i hlt
      refine List.pairwise_cons.mpr ⟨fun other hother => ?_, h⟩
      rcases List.mem_cons.mp hother with rfl | hmem
      · exact hlt
      · exact Nat.lt_trans hlt (hfirst other hmem)
    · split
      · rename_i hlt
        refine List.pairwise_cons.mpr ⟨fun other hother => ?_, ih hrest⟩
        rcases mem_insertInto.mp hother with rfl | hmem
        · exact hlt
        · exact hfirst other hmem
      · exact h

end DecoratorKind

/-- A set of decorators, in their order. -/
structure DecoratorSet where
  kinds : List DecoratorKind
  sorted : kinds.Pairwise (·.rank < ·.rank)
  deriving DecidableEq, Repr

namespace DecoratorSet

/-- The set of one decorator. -/
def single (kind : DecoratorKind) : DecoratorSet where
  kinds := [kind]
  sorted := List.pairwise_singleton _ kind

/-- A set with one more decorator. -/
def insert (kind : DecoratorKind) (set : DecoratorSet) : DecoratorSet where
  kinds := kind.insertInto set.kinds
  sorted := DecoratorKind.pairwise_insertInto set.sorted

instance : Membership DecoratorKind DecoratorSet where
  mem set kind := kind ∈ set.kinds

theorem mem_single {kind other : DecoratorKind} : other ∈ single kind ↔ other = kind :=
  List.mem_singleton

theorem mem_insert {kind other : DecoratorKind} {set : DecoratorSet} :
    other ∈ set.insert kind ↔ other = kind ∨ other ∈ set :=
  DecoratorKind.mem_insertInto

end DecoratorSet

/-- A relation seen from one of its entities. -/
structure Side where
  /-- The class at the other end. -/
  target : String
  /-- The property there that leads back. -/
  accessor : String
  onDelete : Option ReferentialAction := none
  onUpdate : Option ReferentialAction := none
  deriving DecidableEq, Repr

/-- A decorator of a property. -/
inductive Decorator where
  | column (type : String) (nullable : Option Bool) (unique : Bool) (default : Option DefaultValue)
  | primaryColumn
  | primaryGeneratedColumn
  | createDateColumn
  | updateDateColumn
  | deleteDateColumn
  | oneToOne (side : Side)
  | oneToMany (side : Side)
  | manyToOne (side : Side)
  | joinColumn (column : String)
  deriving DecidableEq, Repr

end Dbml.TypeOrm
