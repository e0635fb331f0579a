import Mathlib.Data.List.Sort

/-! Pages of a query that is asked anew for each of them: `ORDER BY key DESC OFFSET .. LIMIT ..`.
The key orders the rows only up to ties, and each query may break them in its own way, so a page
is known only if no tie reaches over one of its ends. -/
namespace Pages
open scoped List

section Query
variable {α κ : Type*} [LinearOrder κ] (key : α → κ)

/- An answer in the order of the keys, the greatest first. -/
structure Descending (rows answer : List α) : Prop where
  perm : answer.Perm rows
  sorted : answer.Pairwise (fun a b => key b ≤ key a)

def above (k : κ) (rows : List α) : List α := rows.filter (fun row => decide (k < key row))

def tied (k : κ) (rows : List α) : List α := rows.filter (fun row => decide (key row = k))

def below (k : κ) (rows : List α) : List α := rows.filter (fun row => decide (key row < k))

def page (limit offset : Nat) (answer : List α) : List α := (answer.drop offset).take limit

/- One page after the other, each from the answer to its own query. -/
def pages (limit : Nat) (answers : Nat → List α) (count : Nat) : List α :=
  (List.range count).flatMap (fun k => page limit (k * limit) (answers k))

/- The pages are the rows, each of them once, whichever way each query breaks the ties. -/
def Partition (limit : Nat) (rows : List α) : Prop :=
  ∀ answers : Nat → List α, (∀ k, Descending key rows (answers k)) →
    ∀ count, rows.length ≤ count * limit → (pages limit answers count).Perm rows

/- A database that answers in the order of the keys, each query in its own way. -/
def Arranges (arrange : Nat → List α → List α) : Prop := ∀ n rows, Descending key rows (arrange n rows)

/- All rows of one key have their places on one page. -/
def Unbroken (limit : Nat) (rows : List α) : Prop :=
  ∀ row ∈ rows, (above key (key row) rows).length / limit =
    ((above key (key row) rows).length + (tied key (key row) rows).length - 1) / limit

instance (limit : Nat) (rows : List α) : Decidable (Unbroken key limit rows) :=
  inferInstanceAs (Decidable (∀ row ∈ rows, _))

/- A tie that the limit cuts through is one of equal rows. -/
def Settled (limit : Nat) (rows : List α) : Prop :=
  ∀ row ∈ rows, (above key (key row) rows).length < limit →
    limit < (above key (key row) rows).length + (tied key (key row) rows).length →
    ∀ other ∈ tied key (key row) rows, other = row

end Query

section Cutting
variable {α : Type*} {limit : Nat} {rows answer : List α} {answers : Nat → List α} {count : Nat}

theorem pages_succ : pages limit answers (count + 1) = pages limit answers count ++ page limit (count * limit) (answers count) := by
  simp [pages, List.range_succ]

/-- Pages of one answer, as far as they go. -/
theorem pages_of_one (same : ∀ k, k < count → answers k = answer) : pages limit answers count = answer.take (count * limit) := by
  induction count with
  | zero => simp [pages]
  | succ count ih =>
    rw [pages_succ, ih (fun k before => same k (Nat.lt_succ_of_lt before)), same count (Nat.lt_succ_self count), page,
      Nat.succ_mul, List.take_add]

/-- Up to a page, pages of one answer, and from there on, pages of another. -/
theorem pages_of_two {first second : List α} (start : Nat) (early : ∀ k, k < start → answers k = first)
    (late : ∀ k, start ≤ k → answers k = second) (more : Nat) :
    pages limit answers (start + more) = first.take (start * limit) ++ (second.drop (start * limit)).take (more * limit) := by
  induction more with
  | zero => simp [pages_of_one early]
  | succ more ih =>
    rw [← Nat.add_assoc, pages_succ, ih, late _ (Nat.le_add_right start more), page, List.append_assoc, Nat.succ_mul,
      List.take_add, List.drop_drop, Nat.add_mul]

end Cutting

section Order
variable {α κ : Type*} [LinearOrder κ] {key : α → κ} {limit : Nat} {rows answer other : List α}

/-- A sorted list has first the greater keys, then the equal ones, then the lesser ones. -/
theorem descending_split (sorted : answer.Pairwise (fun a b => key b ≤ key a)) (k : κ) :
    answer = above key k answer ++ (tied key k answer ++ below key k answer) := by
  induction answer with
  | nil => rfl
  | cons a answer ih =>
    obtain ⟨greatest, rest⟩ := List.pairwise_cons.mp sorted
    have tail := ih rest
    rcases lt_trichotomy (key a) k with less | same | more
    · have none : above key k answer = [] := List.filter_eq_nil_iff.mpr (fun b member => by
        simpa using (greatest b member).trans less.le)
      have never : tied key k answer = [] := List.filter_eq_nil_iff.mpr (fun b member => by
        simpa using ((greatest b member).trans_lt less).ne)
      rw [none, never] at tail
      unfold above tied below at *
      simp only [List.filter_cons, not_lt.mpr less.le, less.ne, less, decide_true, decide_false, if_true, none, never,
        List.nil_append, Bool.false_eq_true, if_false] at tail ⊢
      rw [← tail]
    · have none : above key k answer = [] := List.filter_eq_nil_iff.mpr (fun b member => by
        simpa [← same] using greatest b member)
      rw [none] at tail
      unfold above tied below at *
      simp only [List.filter_cons, same, lt_irrefl, decide_true, decide_false, if_true, none, List.nil_append,
        Bool.false_eq_true, if_false, List.cons_append] at tail ⊢
      rw [← tail]
    · unfold above tied below at *
      simp only [List.filter_cons, more, more.ne', not_lt.mpr more.le, decide_true, decide_false, if_true,
        Bool.false_eq_true, if_false, List.cons_append]
      rw [← tail]

theorem above_length (descending : Descending key rows answer) (k : κ) :
    (above key k answer).length = (above key k rows).length := (descending.perm.filter _).length_eq

theorem tied_length (descending : Descending key rows answer) (k : κ) :
    (tied key k answer).length = (tied key k rows).length := (descending.perm.filter _).length_eq

/-- Up to the first place of a key, every answer has the same rows. -/
theorem take_above (descending : Descending key rows answer) (k : κ) :
    (answer.take (above key k rows).length).Perm (above key k rows) := by
  have parts := descending_split descending.sorted k
  have start : answer.take (above key k rows).length = above key k answer := by
    rw [← above_length descending]
    nth_rewrite 2 [parts]
    rw [List.take_left]
  rw [start]
  exact descending.perm.filter _

/-- A page that no tie reaches into starts with the first row of a key. -/
theorem starts_a_key (positive : 0 < limit) (unbroken : Unbroken key limit rows) (descending : Descending key rows answer)
    {start : Nat} (inside : start * limit < rows.length) : ∃ k, (above key k rows).length = start * limit := by
  have bound : start * limit < answer.length := by rwa [descending.perm.length_eq]
  have found : answer[start * limit]? = some answer[start * limit] := List.getElem?_eq_getElem bound
  generalize answer[start * limit] = row at found
  have parts := descending_split descending.sorted (key row)
  rw [parts] at found
  have first : (above key (key row) answer).length ≤ start * limit := by
    by_contra before
    rw [List.getElem?_append_left (not_le.mp before)] at found
    simpa using (List.mem_filter.mp (List.mem_of_getElem? found)).2
  rw [List.getElem?_append_right first] at found
  have last : start * limit - (above key (key row) answer).length < (tied key (key row) answer).length := by
    by_contra behind
    rw [List.getElem?_append_right (not_lt.mp behind)] at found
    simpa using (List.mem_filter.mp (List.mem_of_getElem? found)).2
  have member : row ∈ rows := by
    rw [List.getElem?_append_left last] at found
    exact descending.perm.mem_iff.mp (List.mem_filter.mp (List.mem_of_getElem? found)).1
  have together := unbroken row member
  rw [above_length descending] at first last
  rw [tied_length descending] at last
  have reached : start * limit ≤ (above key (key row) rows).length + (tied key (key row) rows).length - 1 := by omega
  rw [← Nat.le_div_iff_mul_le positive, ← together, Nat.le_div_iff_mul_le positive] at reached
  exact ⟨key row, Nat.le_antisymm first reached⟩

theorem take_perm (positive : 0 < limit) (unbroken : Unbroken key limit rows) (first : Descending key rows answer)
    (second : Descending key rows other) (start : Nat) :
    (answer.take (start * limit)).Perm (other.take (start * limit)) := by
  by_cases inside : start * limit < rows.length
  · obtain ⟨k, place⟩ := starts_a_key positive unbroken first inside
    rw [← place]
    exact (take_above first k).trans (take_above second k).symm
  · have all : rows.length ≤ start * limit := not_lt.mp inside
    rw [List.take_of_length_le (first.perm.length_eq.trans_le all), List.take_of_length_le (second.perm.length_eq.trans_le all)]
    exact first.perm.trans second.perm.symm

theorem partition_of_unbroken (positive : 0 < limit) (unbroken : Unbroken key limit rows) : Partition key limit rows := by
  intro answers descending count enough
  have start (more : Nat) : (pages limit answers more).Perm ((answers 0).take (more * limit)) := by
    induction more with
    | zero => simp [pages]
    | succ more ih =>
      calc pages limit answers (more + 1)
          = pages limit answers more ++ page limit (more * limit) (answers more) := pages_succ
        _ ~ (answers more).take (more * limit) ++ page limit (more * limit) (answers more) :=
            (ih.trans (take_perm positive unbroken (descending 0) (descending more) more)).append_right _
        _ = (answers more).take ((more + 1) * limit) := by rw [Nat.succ_mul, List.take_add, page]
        _ ~ (answers 0).take ((more + 1) * limit) :=
            take_perm positive unbroken (descending more) (descending 0) (more + 1)
  have all := start count
  rw [List.take_of_length_le ((descending 0).perm.length_eq.trans_le enough)] at all
  exact all.trans (descending 0).perm

theorem exists_descending (key : α → κ) (rows : List α) : ∃ answer, Descending key rows answer := by
  have total : Std.Total (fun a b : α => key b ≤ key a) := ⟨fun a b => le_total (key b) (key a)⟩
  have trans : IsTrans α (fun a b => key b ≤ key a) := ⟨fun _ _ _ first second => second.trans first⟩
  exact ⟨rows.insertionSort (fun a b => key b ≤ key a), List.perm_insertionSort _ rows, List.pairwise_insertionSort _ rows⟩

/-- Two rows of one key may change places. -/
theorem swap_tied {before after : List α} {a b : α} (same : key a = key b)
    (descending : Descending key rows (before ++ a :: b :: after)) : Descending key rows (before ++ b :: a :: after) := by
  refine ⟨((List.Perm.swap a b after).append_left before).trans descending.perm, ?_⟩
  have sorted := descending.sorted
  rw [← List.pairwise_map (f := key) (R := fun k l => l ≤ k)] at sorted ⊢
  simpa [same] using sorted

theorem exists_neighbours {xs : List α} {m : Nat} (inside : m + 1 < xs.length) :
    ∃ before a b after, xs = before ++ a :: b :: after ∧ before.length = m := by
  refine ⟨xs.take m, xs[m], xs[m + 1], xs.drop (m + 2), ?_, ?_⟩
  · rw [← List.drop_eq_getElem_cons inside, ← List.drop_eq_getElem_cons (by omega), List.take_append_drop]
  · rw [List.length_take]
    omega

/-- Two rows of one key, one at the end of a page and the other at the start of the next. -/
theorem exists_cut (positive : 0 < limit) {row : α} (member : row ∈ rows)
    (apart : (above key (key row) rows).length / limit ≠
      ((above key (key row) rows).length + (tied key (key row) rows).length - 1) / limit) :
    ∃ before a b after start, Descending key rows (before ++ a :: b :: after) ∧ key a = key b ∧
      before.length + 1 = start * limit := by
  obtain ⟨answer, descending⟩ := exists_descending key rows
  have parts := descending_split descending.sorted (key row)
  have tie : row ∈ tied key (key row) answer :=
    List.mem_filter.mpr ⟨descending.perm.mem_iff.mpr member, decide_eq_true rfl⟩
  have some : 0 < (tied key (key row) answer).length := List.length_pos_of_mem tie
  rw [← above_length descending, ← tied_length descending] at apart
  -- The page that has the last row of the tie starts after the first one.
  let last := (above key (key row) answer).length + (tied key (key row) answer).length - 1
  have later : (above key (key row) answer).length < last / limit * limit := by
    rw [← Nat.div_lt_iff_lt_mul positive]
    exact lt_of_le_of_ne (Nat.div_le_div_right (by omega)) apart
  have reached : last / limit * limit ≤ last := Nat.div_mul_le_self last limit
  obtain ⟨before, a, b, after, split, place⟩ := @exists_neighbours α (tied key (key row) answer)
    (last / limit * limit - (above key (key row) answer).length - 1) (by omega)
  have first : a ∈ tied key (key row) answer := by simp [split]
  have second : b ∈ tied key (key row) answer := by simp [split]
  have same : key a = key b :=
    (of_decide_eq_true (List.mem_filter.mp first).2).trans (of_decide_eq_true (List.mem_filter.mp second).2).symm
  refine ⟨above key (key row) answer ++ before, a, b, after ++ below key (key row) answer, last / limit, ?_, same, ?_⟩
  · rw [split] at parts
    have joined : above key (key row) answer ++ before ++ a :: b :: (after ++ below key (key row) answer) = answer := by
      simpa using parts.symm
    rw [joined]
    exact descending
  · rw [List.length_append]
    omega

/-- If one query puts the one of them first and the next query the other, a row is on both pages. -/
theorem not_partition_of_cut (positive : 0 < limit) (distinct : rows.Nodup) {before after : List α} {a b : α} {start : Nat}
    (descending : Descending key rows (before ++ a :: b :: after)) (same : key a = key b)
    (cut : before.length + 1 = start * limit) : ¬ Partition key limit rows := by
  intro partition
  let answers : Nat → List α := fun k => if k < start then before ++ a :: b :: after else before ++ b :: a :: after
  have answered : ∀ k, Descending key rows (answers k) := by
    intro k
    by_cases early : k < start
    · simpa [answers, early] using descending
    · simpa [answers, early] using swap_tied same descending
  have size := descending.perm.length_eq
  have more : rows.length ≤ rows.length * limit := Nat.le_mul_of_pos_right _ positive
  have all := partition answers answered (start + rows.length) (by rw [Nat.add_mul]; omega)
  rw [pages_of_two start (fun k early => if_pos early) (fun k late => if_neg (not_lt.mpr late)), ← cut] at all
  have apart := List.nodup_append.mp (all.symm.nodup distinct)
  have left : a ∈ (before ++ a :: b :: after).take (before.length + 1) := by simp [List.take_length_add_append]
  have right : a ∈ ((before ++ b :: a :: after).drop (before.length + 1)).take (rows.length * limit) := by
    have some : 0 < rows.length * limit := by
      rw [List.length_append] at size
      simp only [List.length_cons] at size
      omega
    rw [List.drop_length_add_append]
    exact List.mem_take_iff_getElem.mpr ⟨0, by simp [some], rfl⟩
  exact apart.2.2 a left a right rfl

/-- The pages partition distinct rows exactly if no tie is broken by the end of a page. -/
theorem partition_iff (positive : 0 < limit) (distinct : rows.Nodup) : Partition key limit rows ↔ Unbroken key limit rows := by
  constructor
  · intro partition row member
    by_contra apart
    obtain ⟨before, a, b, after, start, descending, same, cut⟩ := exists_cut positive member apart
    exact not_partition_of_cut positive distinct descending same cut partition
  · exact partition_of_unbroken positive

theorem exists_arranges {answers : Nat → List α} (descending : ∀ k, Descending key rows (answers k)) :
    ∃ arrange, Arranges key arrange ∧ ∀ k, arrange k rows = answers k := by
  classical
  refine ⟨fun k others => if others = rows then answers k else (exists_descending key others).choose, ?_, ?_⟩
  · intro k others
    by_cases same : others = rows
    · simpa only [same, if_true] using descending k
    · simpa only [same, if_false] using (exists_descending key others).choose_spec
  · intro k
    exact if_pos rfl

theorem subset_of_pages {answers : Nat → List α} (descending : ∀ k, Descending key rows (answers k)) (count : Nat) :
    pages limit answers count ⊆ rows := by
  intro row member
  obtain ⟨k, _, inside⟩ := List.mem_flatMap.mp member
  exact (descending k).perm.mem_iff.mp (List.mem_of_mem_drop (List.mem_of_mem_take inside))

theorem perm_of_map_perm {β : Type*} {f : α → β} {part : List α} (inside : part ⊆ rows) (distinct : (rows.map f).Nodup)
    (perm : (part.map f).Perm (rows.map f)) : part.Perm rows := by
  refine (List.perm_ext_iff_of_nodup (perm.symm.nodup distinct).of_map distinct.of_map).mpr (fun row => ?_)
  constructor
  · intro member
    exact inside member
  · intro member
    obtain ⟨other, there, same⟩ := List.mem_map.mp (perm.mem_iff.mpr (List.mem_map_of_mem member))
    exact List.inj_on_of_nodup_map distinct (inside there) member same ▸ there

/-- What a service makes of the rows does not matter, if it can still tell them apart. -/
theorem listing_iff {β : Type*} {f : α → β} (positive : 0 < limit) (distinct : (rows.map f).Nodup) :
    (∀ arrange, Arranges key arrange → ∀ count, rows.length ≤ count * limit →
      ((List.range count).flatMap (fun k => (page limit (k * limit) (arrange k rows)).map f)).Perm (rows.map f)) ↔
      Unbroken key limit rows := by
  have shown (answers : Nat → List α) (count : Nat) :
      (List.range count).flatMap (fun k => (page limit (k * limit) (answers k)).map f) =
        (pages limit answers count).map f := by rw [pages, List.map_flatMap]
  rw [← partition_iff positive distinct.of_map]
  constructor
  · intro listed answers descending count enough
    obtain ⟨arrange, arranges, same⟩ := exists_arranges descending
    have perm := listed arrange arranges count enough
    simp only [same] at perm
    rw [shown] at perm
    exact perm_of_map_perm (subset_of_pages descending count) distinct perm
  · intro partition arrange arranges count enough
    rw [shown (fun k => arrange k rows)]
    exact (partition _ (fun k => arranges k rows) count enough).map f

end Order

section First
variable {α κ : Type*} [LinearOrder κ] {key : α → κ} {limit : Nat} {rows answer other : List α}

/-- A row of an answer comes after the rows above it, and before the end of its tie. -/
theorem place_of_row (descending : Descending key rows answer) {n : Nat} {row : α} (found : answer[n]? = some row) :
    (above key (key row) rows).length ≤ n ∧ n < (above key (key row) rows).length + (tied key (key row) rows).length := by
  rw [descending_split descending.sorted (key row)] at found
  rw [← above_length descending, ← tied_length descending]
  have first : (above key (key row) answer).length ≤ n := by
    by_contra before
    rw [List.getElem?_append_left (not_le.mp before)] at found
    simpa using (List.mem_filter.mp (List.mem_of_getElem? found)).2
  refine ⟨first, ?_⟩
  by_contra behind
  rw [List.getElem?_append_right first, List.getElem?_append_right (by omega)] at found
  simpa using (List.mem_filter.mp (List.mem_of_getElem? found)).2

/-- Where the limit lies within a tie or at its end, the first rows are all that is above it and some of the tie. -/
theorem take_within (descending : Descending key rows answer) {k : κ} (starts : (above key k rows).length ≤ limit)
    (ends : limit ≤ (above key k rows).length + (tied key k rows).length) :
    answer.take limit = above key k answer ++ (tied key k answer).take (limit - (above key k rows).length) := by
  rw [← above_length descending] at starts ⊢
  rw [← above_length descending, ← tied_length descending] at ends
  nth_rewrite 1 [descending_split descending.sorted k]
  rw [List.take_append, List.take_of_length_le starts, List.take_append_of_le_length (by omega)]

/-- The rows with the greatest key come first. -/
theorem take_top (descending : Descending key rows answer) {k : κ} (greatest : ∀ row ∈ rows, key row ≤ k) :
    (answer.take (tied key k rows).length).Perm (tied key k rows) := by
  have none : above key k rows = [] := List.filter_eq_nil_iff.mpr (fun row member => by simpa using greatest row member)
  have never : above key k answer = [] :=
    List.eq_nil_of_length_eq_zero (by rw [above_length descending, none, List.length_nil])
  rw [take_within (k := k) descending (by simp [none]) (by omega), never, none, List.length_nil, Nat.sub_zero, List.nil_append,
    List.take_of_length_le (tied_length descending k).le]
  exact descending.perm.filter _

theorem replace_tied {before tie same after : List α} {k : κ} (equal : ∀ a ∈ tie, key a = k) (perm : same.Perm tie)
    (descending : Descending key rows (before ++ (tie ++ after))) : Descending key rows (before ++ (same ++ after)) := by
  refine ⟨((perm.append_right after).append_left before).trans descending.perm, ?_⟩
  have keys : same.map key = tie.map key := by
    rw [List.map_eq_replicate_iff.mpr equal, List.map_eq_replicate_iff.mpr (fun a inside => equal a (perm.mem_iff.mp inside)),
      perm.length_eq]
  have sorted := descending.sorted
  rw [← List.pairwise_map (f := key) (R := fun k l => l ≤ k)] at sorted ⊢
  simpa [keys] using sorted

/-- If the limit cuts through a tie of rows that are not all equal, two answers differ in what comes first. -/
theorem exists_other_first (descending : Descending key rows answer) {row different : α} (member : row ∈ rows)
    (starts : (above key (key row) rows).length < limit)
    (ends : limit < (above key (key row) rows).length + (tied key (key row) rows).length)
    (tie : different ∈ tied key (key row) rows) (differs : different ≠ row) :
    ∃ before after, Descending key rows (before ++ row :: different :: after) ∧ before.length + 1 = limit := by
  classical
  rw [← above_length descending] at starts ends
  rw [← tied_length descending] at ends
  have own : row ∈ tied key (key row) answer :=
    List.mem_filter.mpr ⟨descending.perm.mem_iff.mpr member, decide_eq_true rfl⟩
  have also : different ∈ (tied key (key row) answer).erase row :=
    (List.mem_erase_of_ne differs).mpr ((descending.perm.filter _).mem_iff.mpr tie)
  generalize others : ((tied key (key row) answer).erase row).erase different = rest at *
  have parts : (tied key (key row) answer).Perm (row :: different :: rest) := by
    rw [← others]
    exact (List.perm_cons_erase own).trans ((List.perm_cons_erase also).cons row)
  have size := parts.length_eq
  simp only [List.length_cons] at size
  let early := rest.take (limit - (above key (key row) answer).length - 1)
  let late := rest.drop (limit - (above key (key row) answer).length - 1)
  have together : (early ++ row :: different :: late).Perm (tied key (key row) answer) := by
    refine List.perm_middle.trans ((List.perm_middle.cons row).trans ?_)
    rw [List.take_append_drop]
    exact parts.symm
  have whole := descending
  rw [descending_split descending.sorted (key row)] at whole
  have moved := replace_tied (fun a inside => of_decide_eq_true (List.mem_filter.mp inside).2) together whole
  refine ⟨above key (key row) answer ++ early, late ++ below key (key row) answer, ?_, ?_⟩
  · simpa using moved
  · simp only [early, List.length_append, List.length_take]
    omega

/-- Whichever way the ties are broken, the same rows come first exactly if the limit cuts through no tie
of rows that can be told apart. -/
theorem first_rows_iff (descending : Descending key rows answer) :
    (∀ other, Descending key rows other → (other.take limit).Perm (answer.take limit)) ↔ Settled key limit rows := by
  constructor
  · intro same row member starts ends different tie
    by_contra differs
    obtain ⟨before, after, one, rfl⟩ := exists_other_first descending member starts ends tie differs
    have two := swap_tied (of_decide_eq_true (List.mem_filter.mp tie).2).symm one
    have both := (same _ one).trans (same _ two).symm
    rw [List.take_length_add_append, List.take_length_add_append, List.perm_append_left_iff] at both
    simp only [List.take_succ_cons, List.take_zero] at both
    exact differs (List.cons.inj (List.singleton_perm.mp both)).1.symm
  · intro settled other second
    by_cases inside : limit < rows.length
    · obtain rfl | positive := Nat.eq_zero_or_pos limit
      · simp
      · have bound : limit - 1 < answer.length := by rw [descending.perm.length_eq]; omega
        have found : answer[limit - 1]? = some answer[limit - 1] := List.getElem?_eq_getElem bound
        generalize answer[limit - 1] = row at found
        obtain ⟨first, last⟩ := place_of_row descending found
        have member : row ∈ rows := descending.perm.mem_iff.mp (List.mem_of_getElem? found)
        rw [take_within (k := key row) second (by omega) (by omega), take_within (k := key row) descending (by omega) (by omega)]
        refine List.Perm.append ((second.perm.trans descending.perm.symm).filter _) ?_
        by_cases ends : limit < (above key (key row) rows).length + (tied key (key row) rows).length
        · have equal := settled row member (by omega) ends
          have alike {xs : List α} (sorted : Descending key rows xs) : ∀ a ∈ tied key (key row) xs, a = row :=
            fun a tie => equal a ((sorted.perm.filter _).mem_iff.mp tie)
          rw [List.eq_replicate_of_mem (alike second), List.eq_replicate_of_mem (alike descending), tied_length second,
            tied_length descending]
        · rw [List.take_of_length_le (by rw [tied_length second]; omega),
            List.take_of_length_le (by rw [tied_length descending]; omega)]
          exact (second.perm.trans descending.perm.symm).filter _
    · have all : rows.length ≤ limit := not_lt.mp inside
      rw [List.take_of_length_le (second.perm.length_eq.trans_le all),
        List.take_of_length_le (descending.perm.length_eq.trans_le all)]
      exact second.perm.trans descending.perm.symm

end First
end Pages
