import Pagewise.Json.Basic

/-!
Documents: the JSON values that operations take and return. The members of an object are in strictly
increasing order of their names by construction, so two objects with the same members are the same.
Main statements: reading after inserting or erasing, and when two updates amount to one.
-/
namespace Pagewise

mutual

inductive Document where
  | null
  | bool (value : Bool)
  | number (value : Number)
  | string (value : String)
  | array (items : List Document)
  | object (members : Members none)

/-- Members with increasing names, all above the bound if there is one. -/
inductive Members : Option String → Type where
  | nil {bound : Option String} : Members bound
  | cons {bound : Option String} (name : String) (above : ∀ b ∈ bound, b < name)
      (value : Document) (rest : Members (some name)) : Members bound

end

namespace Members

variable {bound : Option String}

def get? (name : String) : {bound : Option String} → Members bound → Option Document
  | _, .nil => none
  | _, .cons key _ value rest => if key = name then some value else rest.get? name

theorem lt_of_not_lt {a b : String} (hlt : ¬ a < b) (hne : a ≠ b) : b < a :=
  Decidable.by_contra fun h =>
    hne (String.le_antisymm (String.not_lt.1 h) (String.not_lt.1 hlt))

def insert (name : String) (value : Document) :
    {bound : Option String} → (∀ b ∈ bound, b < name) → Members bound → Members bound
  | _, h, .nil => .cons name h value .nil
  | _, h, .cons key hk old rest =>
    if hlt : name < key then .cons name h value (.cons key (by simpa using hlt) old rest)
    else if heq : name = key then .cons key hk value rest
    else .cons key hk old (rest.insert name value fun b hb =>
      Option.mem_some.1 hb ▸ lt_of_not_lt hlt heq)

def weaken {low : Option String} {key : String} (h : ∀ b ∈ low, b < key) :
    Members (some key) → Members low
  | .nil => .nil
  | .cons k hk value rest =>
    .cons k (fun b hb => String.lt_trans (h b hb) (by simpa using hk)) value rest

def erase (name : String) : {bound : Option String} → Members bound → Members bound
  | _, .nil => .nil
  | _, .cons key hk value rest =>
    if key = name then rest.weaken hk else .cons key hk value (rest.erase name)

def toList : {bound : Option String} → Members bound → List (String × Document)
  | _, .nil => []
  | _, .cons key _ value rest => (key, value) :: rest.toList

def set (name : String) (value : Document) (ms : Members none) : Members none :=
  ms.insert name value (by simp)

def ofList (entries : List (String × Document)) : Members none :=
  entries.foldl (fun ms e => ms.set e.1 e.2) .nil

def isEmpty : Members bound → Bool
  | .nil => true
  | .cons .. => false

/-! ### Lookup after an update -/

@[simp] theorem get?_nil (name : String) : (Members.nil : Members bound).get? name = none := rfl

@[simp] theorem toList_nil : (Members.nil : Members bound).toList = [] := rfl

@[simp] theorem toList_cons (key : String) (h : ∀ b ∈ bound, b < key) (value : Document)
    (rest : Members (some key)) :
    (Members.cons key h value rest).toList = (key, value) :: rest.toList := rfl

theorem get?_eq_none_of_not_lt {name low : String} (h : ¬ low < name) :
    {bound : Option String} → (ms : Members bound) → low ∈ bound → ms.get? name = none
  | _, .nil, _ => rfl
  | _, .cons key hk value rest, hb => by
    have hlow := hk low hb
    rw [get?, if_neg (by grind)]
    exact get?_eq_none_of_not_lt (fun hkey => h (String.lt_trans hlow hkey)) rest rfl

theorem get?_weaken {low : Option String} {key : String} (h : ∀ b ∈ low, b < key)
    (ms : Members (some key)) (name : String) : (ms.weaken h).get? name = ms.get? name := by
  cases ms <;> rfl

@[simp] theorem get?_insert_self (name : String) (value : Document) :
    {bound : Option String} → (h : ∀ b ∈ bound, b < name) → (ms : Members bound) →
      (ms.insert name value h).get? name = some value
  | _, _, .nil => by simp [insert, get?]
  | _, h, .cons key hk old rest => by
    rw [insert]
    split
    · simp [get?]
    · split
      · simp [get?, *]
      · rw [get?, if_neg (by grind)]
        exact get?_insert_self name value _ rest

theorem get?_insert_of_ne {name other : String} (hne : other ≠ name) (value : Document) :
    {bound : Option String} → (h : ∀ b ∈ bound, b < name) → (ms : Members bound) →
      (ms.insert name value h).get? other = ms.get? other
  | _, _, .nil => by simp [insert, get?, hne.symm]
  | _, h, .cons key hk old rest => by
    rw [insert]
    split
    · rw [get?, if_neg hne.symm]; rfl
    · split
      · next heq => rw [get?, get?, if_neg (by grind), if_neg (by grind)]
      · rw [get?, get?]
        split
        · rfl
        · exact get?_insert_of_ne hne value _ rest

@[simp] theorem get?_erase_self (name : String) :
    {bound : Option String} → (ms : Members bound) → (ms.erase name).get? name = none
  | _, .nil => rfl
  | _, .cons key hk value rest => by
    rw [erase]
    split
    · next h =>
      rw [get?_weaken]
      subst h
      exact get?_eq_none_of_not_lt (String.lt_irrefl key) rest rfl
    · next h => rw [get?, if_neg h]; exact get?_erase_self name rest

theorem get?_erase_of_ne {name other : String} (hne : other ≠ name) :
    {bound : Option String} → (ms : Members bound) → (ms.erase name).get? other = ms.get? other
  | _, .nil => rfl
  | _, .cons key hk value rest => by
    rw [erase]
    split
    · next h =>
      rw [get?_weaken, get?, if_neg (by grind)]
    · rw [get?, get?, get?_erase_of_ne hne rest]

@[simp] theorem get?_set_self (name : String) (value : Document) (ms : Members none) :
    (ms.set name value).get? name = some value := get?_insert_self name value _ ms

theorem get?_set_of_ne {name other : String} (hne : other ≠ name) (value : Document)
    (ms : Members none) : (ms.set name value).get? other = ms.get? other :=
  get?_insert_of_ne hne value _ ms

end Members

namespace Document

instance : Inhabited Document := ⟨.null⟩

def emptyObject : Document := .object .nil

def isNull : Document → Bool
  | .null => true
  | _ => false

def asObject? : Document → Option (Members none)
  | .object ms => some ms
  | _ => none

def ofPairs (entries : List (String × Document)) : Document := .object (Members.ofList entries)

def ofNat (n : Nat) : Document := .number (.int n)

def ofOption (d : Option Document) : Document := d.getD .null

/-! ### Equality

Numbers of different kinds differ, and both binary64 zeros are equal. -/

mutual

def beq : Document → Document → Bool
  | .null, .null => true
  | .bool a, .bool b => a == b
  | .number a, .number b => a == b
  | .string a, .string b => a == b
  | .array xs, .array ys => beqItems xs ys
  | .object ms, .object ns => beqMembers ms ns
  | _, _ => false

def beqItems : List Document → List Document → Bool
  | [], [] => true
  | x :: xs, y :: ys => beq x y && beqItems xs ys
  | _, _ => false

def beqMembers : {b c : Option String} → Members b → Members c → Bool
  | _, _, .nil, .nil => true
  | _, _, .cons k _ v r, .cons k' _ v' r' => k == k' && beq v v' && beqMembers r r'
  | _, _, _, _ => false

end

instance : BEq Document := ⟨beq⟩

mutual

theorem beq_self : (d : Document) → d.beq d = true
  | .null => rfl
  | .bool b => beq_self_eq_true b
  | .number n => n.beq_self
  | .string s => beq_self_eq_true s
  | .array items => beqItems_self items
  | .object ms => beqMembers_self ms

theorem beqItems_self : (items : List Document) → beqItems items items = true
  | [] => rfl
  | d :: rest => by rw [beqItems, beq_self d, beqItems_self rest, Bool.and_self]

theorem beqMembers_self : {bound : Option String} → (ms : Members bound) → beqMembers ms ms = true
  | _, .nil => rfl
  | _, .cons key _ value rest => by
    rw [beqMembers, beq_self_eq_true key, beq_self value, beqMembers_self rest]
    rfl

end

theorem ne_of_beq_eq_false {d e : Document} (h : (d == e) = false) : d ≠ e := by
  rintro rfl
  exact absurd ((beq_self d).symm.trans h) (by decide)

/-! ### Reading -/

mutual

/-- The value of a written one: where a name is repeated, the last member counts. -/
def ofJson : Json → Document
  | .null => .null
  | .bool b => .bool b
  | .number n => .number n
  | .string s => .string s
  | .array items => .array (ofItems items)
  | .object members => .object (Members.ofList (ofMembers members))

def ofItems : List Json → List Document
  | [] => []
  | x :: xs => ofJson x :: ofItems xs

def ofMembers : List (String × Json) → List (String × Document)
  | [] => []
  | (name, x) :: xs => (name, ofJson x) :: ofMembers xs

end

mutual

def toJson : Document → Json
  | .null => .null
  | .bool b => .bool b
  | .number n => .number n
  | .string s => .string s
  | .array items => .array (itemsToJson items)
  | .object ms => .object (membersToJson ms)

def itemsToJson : List Document → List Json
  | [] => []
  | x :: xs => toJson x :: itemsToJson xs

def membersToJson : {bound : Option String} → Members bound → List (String × Json)
  | _, .nil => []
  | _, .cons name _ value rest => (name, toJson value) :: membersToJson rest

end

end Document

end Pagewise
