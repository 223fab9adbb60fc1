/-! The four kinds of rules, their tags, and values held once per kind. -/

namespace DomainRules

inductive Kind
  | domain
  | suffix
  | keyword
  | regexp
  deriving DecidableEq

namespace Kind

def all : List Kind := [domain, suffix, keyword, regexp]

def name : Kind → String
  | domain => "domain"
  | suffix => "suffix"
  | keyword => "keyword"
  | regexp => "regexp"

def tag (kind : Kind) : String := kind.name ++ ":"

def ofName? (name : String) : Option Kind := all.find? fun kind => kind.name == name

theorem ofName?_name (kind : Kind) : ofName? kind.name = some kind := by
  cases kind <;> decide

theorem mem_all (kind : Kind) : kind ∈ all := by
  cases kind <;> decide

/-- How a kind is shown in messages about orders. -/
def shown (kind : Kind) : String :=
  let upper := match kind with
    | domain => "DOMAIN"
    | suffix => "SUFFIX"
    | keyword => "KEYWORD"
    | regexp => "REGEXP"
  "<RuleKind." ++ upper ++ ": '" ++ kind.name ++ "'>"

end Kind

structure ByKind (α : Type) where
  domain : α
  suffix : α
  keyword : α
  regexp : α
  deriving DecidableEq

namespace ByKind

def ofFn (f : Kind → α) : ByKind α := ⟨f .domain, f .suffix, f .keyword, f .regexp⟩

def get (values : ByKind α) : Kind → α
  | .domain => values.domain
  | .suffix => values.suffix
  | .keyword => values.keyword
  | .regexp => values.regexp

def set (values : ByKind α) (kind : Kind) (value : α) : ByKind α :=
  match kind with
  | .domain => { values with domain := value }
  | .suffix => { values with suffix := value }
  | .keyword => { values with keyword := value }
  | .regexp => { values with regexp := value }

def toList (values : ByKind α) : List α := Kind.all.map values.get

@[simp] theorem get_ofFn (f : Kind → α) (kind : Kind) : (ofFn f).get kind = f kind := by
  cases kind <;> rfl

@[simp] theorem get_set (values : ByKind α) (kind other : Kind) (value : α) :
    (values.set kind value).get other = if other = kind then value else values.get other := by
  cases kind <;> cases other <;> rfl

end ByKind

end DomainRules
