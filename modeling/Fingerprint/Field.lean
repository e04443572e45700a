/-!
The parts of a transaction that matchers look at, and the kinds of facts that they establish.
-/

namespace Fingerprint

/-- A part of a transaction. -/
inductive Field where
  | url
  | body
  | header
deriving DecidableEq, Repr, Inhabited

namespace Field

/-- The order in which fields are visited. -/
def all : List Field := [.url, .body, .header]

def name : Field → String
  | .url => "url"
  | .body => "body"
  | .header => "header"

def ofName? : String → Option Field
  | "url" => some .url
  | "body" => some .body
  | "header" => some .header
  | _ => none

theorem mem_all (field : Field) : field ∈ all := by
  cases field <;> simp [all]

end Field

/-- What a matcher establishes: a version, the name of a component, or presence alone. -/
inductive Category where
  | matchers
  | modularMatchers
  | indicators
deriving DecidableEq, Repr, Inhabited

namespace Category

/-- The order in which categories are visited. -/
def all : List Category := [.matchers, .modularMatchers, .indicators]

def name : Category → String
  | .matchers => "matchers"
  | .modularMatchers => "modular_matchers"
  | .indicators => "indicators"

def ofName? : String → Option Category
  | "matchers" => some .matchers
  | "modular_matchers" => some .modularMatchers
  | "indicators" => some .indicators
  | _ => none

/-- Whether a matcher of the category has to yield a text. -/
def requiresText : Category → Bool
  | .indicators => false
  | _ => true

theorem mem_all (category : Category) : category ∈ all := by
  cases category <;> simp [all]

end Category

/-- A list for each field. -/
structure PerField (α : Type) where
  url : List α
  body : List α
  header : List α
deriving DecidableEq, Repr, Inhabited

namespace PerField

variable {α : Type}

def empty : PerField α := ⟨[], [], []⟩

def get (lists : PerField α) : Field → List α
  | .url => lists.url
  | .body => lists.body
  | .header => lists.header

def modify (lists : PerField α) (field : Field) (change : List α → List α) : PerField α :=
  match field with
  | .url => { lists with url := change lists.url }
  | .body => { lists with body := change lists.body }
  | .header => { lists with header := change lists.header }

def isEmpty (lists : PerField α) : Bool :=
  lists.url.isEmpty && lists.body.isEmpty && lists.header.isEmpty

/-- The total length. -/
def length (lists : PerField α) : Nat :=
  lists.url.length + lists.body.length + lists.header.length

end PerField

/-- Lists for each category and field. -/
structure PerCategory (α : Type) where
  matchers : PerField α
  modularMatchers : PerField α
  indicators : PerField α
deriving DecidableEq, Repr, Inhabited

namespace PerCategory

variable {α : Type}

def empty : PerCategory α := ⟨.empty, .empty, .empty⟩

def get (lists : PerCategory α) : Category → PerField α
  | .matchers => lists.matchers
  | .modularMatchers => lists.modularMatchers
  | .indicators => lists.indicators

def modify (lists : PerCategory α) (category : Category) (change : PerField α → PerField α) :
    PerCategory α :=
  match category with
  | .matchers => { lists with matchers := change lists.matchers }
  | .modularMatchers => { lists with modularMatchers := change lists.modularMatchers }
  | .indicators => { lists with indicators := change lists.indicators }

/-- The total length. -/
def length (lists : PerCategory α) : Nat :=
  lists.matchers.length + lists.modularMatchers.length + lists.indicators.length

end PerCategory

end Fingerprint
