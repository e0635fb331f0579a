import VMachine.Lib.Python

/-! Data models with declared fields. A model is built from keyword arguments: a field that
is given is checked against its type and its bounds, one that is not takes its default, and
what no field declares is ignored. An instance has the declared attributes and no others. -/
namespace Py

inductive Ty where
  | str
  | int
  | bool
  | any
  | optional (t : Ty)
  | list (t : Ty)
  | dict (t : Ty)
  deriving Repr, DecidableEq

/- Values as the callers pass them; coercions between types do not arise. -/
def Ty.accepts : Ty → Val → Bool
  | .str, .str _ => true
  | .int, .int _ => true
  | .bool, .bool _ => true
  | .any, _ => true
  | .optional _, .none => true
  | .optional t, v => t.accepts v
  | .list t, .list vs => vs.all t.accepts
  | .dict t, .dict kvs => kvs.all (fun kv => t.accepts kv.2)
  | _, _ => false

structure Field where
  name : String
  type : Ty
  default : Option Val := none
  bound : Val → Bool := fun _ => true

def Field.accepts (f : Field) (v : Val) : Bool := f.type.accepts v && f.bound v

structure Schema where
  name : String
  fields : List Field

/- An instance: the class it belongs to and its attributes in the order of declaration. -/
structure Obj where
  cls : String
  attrs : List (String × Val)
  deriving Repr, Inhabited

def Obj.getattr (o : Obj) (name : String) : Option Val := o.attrs.lookup name

/- The attribute of an instance that declares it. -/
def Obj.field (o : Obj) (name : String) : Val := (o.getattr name).getD .none

/- `o.model_copy(update={name: v})`, which sets the attribute without any check. -/
def Obj.copyWith (o : Obj) (name : String) (v : Val) : Obj :=
  ⟨o.cls, o.attrs.filter (fun kv => kv.1 != name) ++ [(name, v)]⟩

def Field.value (kwargs : List (String × Val)) (f : Field) : Option Val :=
  match kwargs.lookup f.name with
  | some v => if f.accepts v then some v else none
  | none => f.default

/- Either the instance or the names of the fields that fail. -/
def Schema.construct (schema : Schema) (kwargs : List (String × Val)) : Except (List String) Obj :=
  let bad := schema.fields.filter (fun f => (f.value kwargs).isNone)
  if bad.isEmpty then
    .ok ⟨schema.name, schema.fields.map (fun f => (f.name, (f.value kwargs).getD .none))⟩
  else .error (bad.map Field.name)

/- The instances that some keyword arguments build. -/
def Obj.Valid (schema : Schema) (o : Obj) : Prop := ∃ kwargs, schema.construct kwargs = .ok o

section Instances
variable {schema : Schema} {o : Obj} {name : String}

theorem construct_shape {kwargs : List (String × Val)} (ok : schema.construct kwargs = .ok o) :
    o.cls = schema.name ∧ o.attrs.map Prod.fst = schema.fields.map Field.name := by
  simp only [Schema.construct] at ok
  split at ok
  · cases ok
    exact ⟨rfl, by simp⟩
  · contradiction

/-- A field that is given keeps what it is given. -/
theorem value_of_given {f : Field} {kwargs : List (String × Val)} {u v : Val}
    (given : kwargs.lookup f.name = some u) (value : f.value kwargs = some v) : v = u := by
  simp only [Field.value, given] at value
  split at value
  · exact (Option.some.inj value).symm
  · contradiction

theorem lookup_isSome_iff (attrs : List (String × Val)) (name : String) :
    (attrs.lookup name).isSome = true ↔ name ∈ attrs.map Prod.fst := by
  induction attrs with
  | nil => simp
  | cons kv attrs ih =>
    obtain ⟨k, v⟩ := kv
    by_cases same : name = k
    · simp [same]
    · have differ : (name == k) = false := by simpa using same
      simp [List.lookup_cons, differ, ih, same]

/-- An instance has exactly the attributes its model declares. -/
theorem getattr_isSome_iff (valid : o.Valid schema) :
    (o.getattr name).isSome = true ↔ name ∈ schema.fields.map Field.name := by
  obtain ⟨kwargs, ok⟩ := valid
  rw [Obj.getattr, lookup_isSome_iff, (construct_shape ok).2]

theorem getattr_field (valid : o.Valid schema) (declared : name ∈ schema.fields.map Field.name) :
    o.getattr name = some (o.field name) := by
  obtain ⟨v, given⟩ := Option.isSome_iff_exists.mp ((getattr_isSome_iff valid).mpr declared)
  rw [Obj.field, given, Option.getD_some]

theorem getattr_undeclared (valid : o.Valid schema) (absent : name ∉ schema.fields.map Field.name) :
    o.getattr name = none := by
  cases found : o.getattr name with
  | none => rfl
  | some v => exact absurd ((getattr_isSome_iff valid).mp (by rw [found]; rfl)) absent

theorem lookup_map_of_mem {fields : List Field} {g : Field → Val} (distinct : (fields.map Field.name).Nodup) {f : Field}
    (member : f ∈ fields) : (fields.map (fun f => (f.name, g f))).lookup f.name = some (g f) := by
  induction fields with
  | nil => contradiction
  | cons first fields ih =>
    obtain ⟨fresh, rest⟩ := List.nodup_cons.mp distinct
    obtain rfl | later := List.mem_cons.mp member
    · simp
    · have other : (f.name == first.name) = false := by
        rw [beq_eq_false_iff_ne]
        intro same
        exact fresh (same ▸ List.mem_map_of_mem later)
      rw [List.map_cons, List.lookup_cons, other, ih rest later]

/-- What a field makes of its keyword argument, it accepts, if it accepts its own default. -/
theorem accepts_of_value {f : Field} {kwargs : List (String × Val)} {v : Val} (default : f.default.all f.accepts = true)
    (value : f.value kwargs = some v) : f.accepts v = true := by
  unfold Field.value at value
  split at value
  · split at value
    · rename_i accepted
      cases value
      exact accepted
    · contradiction
  · rw [value] at default
    exact default

/-- An instance is built again from its own attributes. -/
theorem construct_attrs (valid : o.Valid schema) (distinct : (schema.fields.map Field.name).Nodup)
    (defaults : schema.fields.all (fun f => f.default.all f.accepts) = true) : schema.construct o.attrs = .ok o := by
  obtain ⟨kwargs, ok⟩ := valid
  simp only [Schema.construct] at ok
  split at ok
  · rename_i none
    cases ok
    have again : ∀ f ∈ schema.fields,
        f.value (schema.fields.map (fun f => (f.name, (f.value kwargs).getD .none))) = f.value kwargs := by
      intro f member
      have found : (f.value kwargs).isSome = true := by
        have fine := List.filter_eq_nil_iff.mp (List.isEmpty_iff.mp none) f member
        exact Option.isSome_iff_ne_none.mpr (by simpa using fine)
      obtain ⟨v, value⟩ := Option.isSome_iff_exists.mp found
      have accepted := accepts_of_value (List.all_eq_true.mp defaults f member) value
      have given := lookup_map_of_mem (g := fun f => (f.value kwargs).getD .none) distinct member
      simp only [value, Option.getD_some] at given
      rw [value, Field.value, given]
      exact if_pos accepted
    have bad : schema.fields.filter (fun f =>
        (f.value (schema.fields.map (fun f => (f.name, (f.value kwargs).getD .none)))).isNone) = [] := by
      rw [← List.isEmpty_iff.mp none]
      exact List.filter_congr (fun f member => by rw [again f member])
    have attrs : schema.fields.map (fun f =>
        (f.name, (f.value (schema.fields.map (fun f => (f.name, (f.value kwargs).getD .none)))).getD .none)) =
        schema.fields.map (fun f => (f.name, (f.value kwargs).getD .none)) :=
      List.map_congr_left (fun f member => by rw [again f member])
    simp only [Schema.construct, bad, attrs]
    rfl
  · contradiction

end Instances

end Py
