import Mathlib.Data.List.Infix

/-! The values a Python program passes around as plain data: what a dictionary, a
keyword argument or an attribute can hold. Dictionaries keep their insertion order. -/
namespace Py

inductive Val where
  | none
  | bool (b : Bool)
  | int (i : Int)
  | str (s : String)
  | list (vs : List Val)
  | dict (kvs : List (String × Val))
  deriving Repr, Inhabited

/- `bool(v)`: what an `if`, an `and` or an `or` sees of a value. -/
def Val.truthy : Val → Bool
  | .none => false
  | .bool b => b
  | .int i => i != 0
  | .str s => s != ""
  | .list vs => !vs.isEmpty
  | .dict kvs => !kvs.isEmpty

/- `v or w`. -/
def Val.or (v w : Val) : Val := if v.truthy then v else w

/- A dictionary lookup, which is also how the attributes of a plain record are read. -/
def Val.get? (v : Val) (name : String) : Option Val :=
  match v with
  | .dict kvs => kvs.lookup name
  | _ => Option.none

/- `str(v)`. Inside a list or a dictionary a string is quoted; its escapes are left out. -/
mutual
def Val.text : Val → String
  | .none => "None"
  | .bool b => if b then "True" else "False"
  | .int i => toString i
  | .str s => s
  | .list vs => "[" ++ ", ".intercalate (Val.texts vs) ++ "]"
  | .dict kvs => "\x7b" ++ ", ".intercalate (Val.items kvs) ++ "\x7d"
def Val.texts : List Val → List String
  | [] => []
  | .str s :: vs => ("'" ++ s ++ "'") :: Val.texts vs
  | v :: vs => v.text :: Val.texts vs
def Val.items : List (String × Val) → List String
  | [] => []
  | (k, .str s) :: kvs => ("'" ++ k ++ "': '" ++ s ++ "'") :: Val.items kvs
  | (k, v) :: kvs => ("'" ++ k ++ "': " ++ v.text) :: Val.items kvs
end

/- `type(v).__name__`. -/
def Val.type : Val → String
  | .none => "NoneType"
  | .bool _ => "bool"
  | .int _ => "int"
  | .str _ => "str"
  | .list _ => "list"
  | .dict _ => "dict"

/- What a lookup of an attribute of a foreign object can find: no attribute of that name,
the value None, or a value. Only `hasattr` and a default tell the first two apart. -/
inductive Attr (α : Type*) where
  | missing
  | unset
  | value (a : α)
  deriving Repr, DecidableEq

section Attributes
variable {α : Type*}

def Attr.has : Attr α → Bool
  | .missing => false
  | _ => true

/- `getattr(x, name, None)`, with None as `none`. -/
def Attr.toOption : Attr α → Option α
  | .value a => some a
  | _ => none

/- `getattr(x, name, default)`, with None as `none`. -/
def Attr.getD (default : α) : Attr α → Option α
  | .missing => some default
  | .unset => none
  | .value a => some a

end Attributes

/- `str(s)` of a string or None. -/
def str : Option String → String
  | none => "None"
  | some s => s

/- An optional string where the code tests its truth value. -/
def nonempty : Option String → Option String
  | some s => if s = "" then none else some s
  | none => none

theorem nonempty_eq_some {text : Option String} {s : String} : nonempty text = some s ↔ text = some s ∧ s ≠ "" := by
  cases text with
  | none => simp [nonempty]
  | some given =>
    by_cases empty : given = ""
    · subst empty
      simp [nonempty, eq_comm]
    · simp only [nonempty, empty, if_false, Option.some.injEq]
      exact ⟨fun own => ⟨own, own ▸ empty⟩, And.left⟩

/-- A comprehension that does not raise has applied its function to each element in turn. -/
theorem forall₂_of_mapM_ok {α β ε : Type} {f : α → Except ε β} {as : List α} {bs : List β}
    (ok : as.mapM f = .ok bs) : List.Forall₂ (fun a b => f a = .ok b) as bs := by
  induction as generalizing bs with
  | nil =>
    cases ok
    exact .nil
  | cons a as ih =>
    rw [List.mapM_cons] at ok
    cases first : f a with
    | error e => simp [first, bind, Except.bind] at ok
    | ok c =>
      cases rest : as.mapM f with
      | error e => simp [first, rest, bind, Except.bind] at ok
      | ok cs =>
        simp only [first, rest, bind, Except.bind, pure, Except.pure, Except.ok.injEq] at ok
        subst ok
        exact .cons first (ih rest)

/-- Each element of a comprehension comes from one of the elements it runs over. -/
theorem mem_of_mapM_ok {α β ε : Type} {f : α → Except ε β} {as : List α} {bs : List β}
    (ok : as.mapM f = .ok bs) {b : β} (member : b ∈ bs) : ∃ a ∈ as, f a = .ok b := by
  have each := forall₂_of_mapM_ok ok
  clear ok
  induction each with
  | nil => contradiction
  | cons first _ ih =>
    obtain rfl | later := List.mem_cons.mp member
    · exact ⟨_, List.mem_cons_self, first⟩
    · obtain ⟨a, inside, value⟩ := ih later
      exact ⟨a, List.mem_cons_of_mem _ inside, value⟩

/-- What an element of a comprehension keeps of the element it comes from. -/
theorem map_of_mapM_ok {α β γ ε : Type} {f : α → Except ε β} {as : List α} {bs : List β} {g : β → γ} {h : α → γ}
    (ok : as.mapM f = .ok bs) (kept : ∀ a b, f a = .ok b → g b = h a) : bs.map g = as.map h := by
  have each := forall₂_of_mapM_ok ok
  clear ok
  induction each with
  | nil => rfl
  | cons first _ ih => rw [List.map_cons, List.map_cons, kept _ _ first, ih]

/-- A comprehension does not raise if its function does not, on any of the elements. -/
theorem exists_mapM_ok {α β ε : Type} {f : α → Except ε β} {as : List α} (each : ∀ a ∈ as, ∃ b, f a = .ok b) :
    ∃ bs, as.mapM f = .ok bs := by
  induction as with
  | nil => exact ⟨[], rfl⟩
  | cons a as ih =>
    obtain ⟨b, first⟩ := each a List.mem_cons_self
    obtain ⟨bs, rest⟩ := ih (fun other later => each other (List.mem_cons_of_mem a later))
    exact ⟨b :: bs, by rw [List.mapM_cons, first, rest]; rfl⟩

/-- A comprehension gives elements of a kind exactly if its function does on every element. -/
theorem mapM_ok_all_iff {α β ε : Type} {f : α → Except ε β} {as : List α} {Q : β → Prop} :
    (∃ bs, as.mapM f = .ok bs ∧ ∀ b ∈ bs, Q b) ↔ ∀ a ∈ as, ∃ b, f a = .ok b ∧ Q b := by
  constructor
  · rintro ⟨bs, ok, kind⟩
    have each := forall₂_of_mapM_ok ok
    clear ok
    induction each with
    | nil => simp
    | @cons a b as bs first _ ih =>
      intro other member
      obtain rfl | later := List.mem_cons.mp member
      · exact ⟨b, first, kind b List.mem_cons_self⟩
      · exact ih (fun c inside => kind c (List.mem_cons_of_mem b inside)) other later
  · intro each
    obtain ⟨bs, ok⟩ := exists_mapM_ok (fun a member => ⟨_, (each a member).choose_spec.1⟩)
    refine ⟨bs, ok, fun b member => ?_⟩
    obtain ⟨a, inside, value⟩ := mem_of_mapM_ok ok member
    obtain ⟨c, computed, kind⟩ := each a inside
    cases value.symm.trans computed
    exact kind

/-- One element on which the function raises is enough, if it raises one exception only. -/
theorem mapM_error {α β ε : Type} {f : α → Except ε β} {as : List α} {e : ε}
    (only : ∀ a exc, f a = .error exc → exc = e) {a : α} (member : a ∈ as) (raises : f a = .error e) :
    as.mapM f = .error e := by
  induction as with
  | nil => contradiction
  | cons first as ih =>
    rw [List.mapM_cons]
    cases head : f first with
    | error exc =>
      rw [only first exc head]
      rfl
    | ok b =>
      obtain rfl | later := List.mem_cons.mp member
      · rw [head] at raises
        contradiction
      · rw [ih later]
        rfl

/- `needle in s`. -/
def isIn (needle s : String) : Bool := decide (needle.toList <:+: s.toList)

/- `s.strip(chars)`. -/
def strip (chars : String) (s : String) : String :=
  let drop := List.dropWhile (fun c => chars.toList.contains c)
  String.ofList (drop (drop s.toList).reverse).reverse

end Py
