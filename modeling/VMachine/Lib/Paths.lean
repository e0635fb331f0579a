import Mathlib.Data.List.Basic

/-! Paths of URLs and the templates that routes are registered under. A template is a list of
words and parameters; a path that is built from parts can be taken apart again. -/
namespace Paths

inductive Segment where
  | word (text : String)
  | param (name : String)
  deriving Repr, DecidableEq

instance : Coe String Segment := ⟨.word⟩

/- What can stand between two slashes. -/
def isPart (text : String) : Bool := text != "" && !text.toList.contains '/'

/- The value of a parameter, which is one part of a path. -/
structure Part where
  text : String
  one : isPart text = true

def Segment.fill (values : String → Part) : Segment → String
  | .word text => text
  | .param name => (values name).text

def Segment.fits : Segment → Bool
  | .word text => isPart text
  | .param _ => true

def url (parts : List String) : String := String.ofList (parts.flatMap (fun part => '/' :: part.toList))

/- `[p for p in path.split("/") if p]` -/
def split (path : String) : List String :=
  ((path.toList.splitOn '/').map String.ofList).filter (fun part => part != "")

theorem splitOn_slashes {first : List Char} {rest : List (List Char)} (start : '/' ∉ first)
    (each : ∀ part ∈ rest, '/' ∉ part) :
    (first ++ rest.flatMap (fun part => '/' :: part)).splitOn '/' = first :: rest := by
  induction rest generalizing first with
  | nil => rw [List.flatMap_nil, List.append_nil, List.splitOn_eq_singleton start]
  | cons part rest ih =>
    have later : ∀ other ∈ rest, '/' ∉ other := fun other member => each other (List.mem_cons_of_mem _ member)
    rw [List.flatMap_cons, List.cons_append, List.splitOn_append_cons_self_of_not_mem start,
      ih (each part List.mem_cons_self) later]

/-- The parts of a path are found again. -/
theorem split_url {parts : List String} (each : ∀ part ∈ parts, isPart part = true) : split (url parts) = parts := by
  have whole : ∀ text ∈ parts.map String.toList, '/' ∉ text := by
    intro text member
    obtain ⟨part, inside, rfl⟩ := List.mem_map.mp member
    simpa using (Bool.and_eq_true_iff.mp (each part inside)).2
  have cut : (url parts).toList.splitOn '/' = [] :: parts.map String.toList := by
    rw [← splitOn_slashes List.not_mem_nil whole, url, String.toList_ofList, List.flatMap_map, List.nil_append]
  have same : (parts.map String.toList).map String.ofList = parts := by simp
  rw [split, cut, List.map_cons, same]
  have filled : ∀ part ∈ parts, (part != "") = true := fun part member => (Bool.and_eq_true_iff.mp (each part member)).1
  rw [List.filter_cons_of_neg (by decide), List.filter_eq_self.mpr filled]

section Templates
variable (values : String → Part)

/- A template with its parameters replaced. -/
def fill (template : List Segment) : List String := template.map (Segment.fill values)

theorem fill_parts {template : List Segment} (fits : template.all Segment.fits = true) :
    ∀ part ∈ fill values template, isPart part = true := by
  intro part member
  obtain ⟨segment, inside, rfl⟩ := List.mem_map.mp member
  have fine := List.all_eq_true.mp fits segment inside
  cases segment with
  | word text => exact fine
  | param name => exact (values name).one

/- The value of the first parameter, read from here. -/
def firstValue : List Segment → Option String
  | [] => none
  | .word _ :: template => firstValue template
  | .param name :: _ => some (values name).text

theorem firstValue_const {part : Part} {template : List Segment} {value : String}
    (found : firstValue (fun _ => part) template = some value) : value = part.text := by
  induction template with
  | nil => contradiction
  | cons segment template ih =>
    cases segment with
    | word text => exact ih found
    | param name => exact (Option.some.inj found).symm

/- The words up to the first parameter. -/
def leadingWords : List Segment → List String
  | [] => []
  | .word text :: template => text :: leadingWords template
  | .param _ :: _ => []

/- The value of the last parameter, and the words behind it. -/
def lastValue (template : List Segment) : Option String := firstValue values template.reverse

def trailingWords (template : List Segment) : List String := leadingWords template.reverse

/-- A search that no value of a parameter escapes ends at one of the words before it, or there. -/
theorem find?_fill {p : String → Bool} (found : ∀ name, p (values name).text = true)
    (template : List Segment) :
    (fill values template).find? p = ((leadingWords template).find? p).or (firstValue values template) := by
  induction template with
  | nil => rfl
  | cons segment template ih =>
    cases segment with
    | word text =>
      change (text :: fill values template).find? p = ((text :: leadingWords template).find? p).or (firstValue values template)
      cases own : p text with
      | true => simp [own]
      | false => simp [own, ih]
    | param name =>
      change ((values name).text :: fill values template).find? p = some (values name).text
      simp [found name]

/-- The same search from the end. -/
theorem find?_fill_reverse {p : String → Bool} (found : ∀ name, p (values name).text = true) (template : List Segment) :
    (fill values template).reverse.find? p = ((trailingWords template).find? p).or (lastValue values template) := by
  have backwards : (fill values template).reverse = fill values template.reverse := (List.map_reverse ..).symm
  rw [backwards]
  exact find?_fill values found template.reverse

end Templates
end Paths
