/- module: AeronClusterClient/Lib/Scan
   generality: any letters, any matches
   digest: Texts that are searched for a pattern from the left, and edited at every match. -/

import Mathlib.Data.List.Basic

/-!
A pattern is searched for from the left: where it is read the search goes on behind
the match, elsewhere it moves on by one letter. A text is then a row of pieces, and
to replace every match is to change the pieces. When each match begins with a key
that decides whether something before it is a match too, the search of the edited
text gives the edited pieces.
-/

set_option autoImplicit false
set_option relaxedAutoImplicit false

namespace AeronClusterClient.Lib.Scan

/-- What can be read at the start of a text, and how it is written. -/
structure Pattern (α μ : Type) where
  read : List α → Option (μ × List α)
  write : μ → List α
  write_ne_nil : ∀ m, write m ≠ []
  reads : ∀ {text m rest}, read text = some (m, rest) → text = write m ++ rest

variable {α μ : Type} (P : Pattern α μ)

section Pieces

/-- The letters that no match covers, and the matches. -/
def scanFrom : Nat → List α → List (α ⊕ μ)
  | 0, _ => []
  | _ + 1, [] => []
  | fuel + 1, c :: text =>
      match P.read (c :: text) with
      | some (m, rest) => .inr m :: scanFrom fuel rest
      | none => .inl c :: scanFrom fuel text

/-- No match is empty, so the length of the text is fuel enough. -/
def scan (text : List α) : List (α ⊕ μ) := scanFrom P text.length text

def search (text : List α) : Option μ := (scan P text).findSome? Sum.getRight?

def render (pieces : List (α ⊕ μ)) : List α := pieces.flatMap (Sum.elim (fun c => [c]) P.write)

def edit (f : μ → μ) (pieces : List (α ⊕ μ)) : List (α ⊕ μ) := pieces.map (Sum.map id f)

def replaceAll (new text : List α) : List α :=
  (scan P text).flatMap (Sum.elim (fun c => [c]) fun _ => new)

/-- The pieces are those that the search gives. -/
inductive Scans : List α → List (α ⊕ μ) → Prop
  | done : Scans [] []
  | found {text rest : List α} {m : μ} {pieces : List (α ⊕ μ)}
      (here : P.read text = some (m, rest)) (later : Scans rest pieces) :
      Scans text (.inr m :: pieces)
  | letter {c : α} {text : List α} {pieces : List (α ⊕ μ)}
      (none : P.read (c :: text) = none) (later : Scans text pieces) :
      Scans (c :: text) (.inl c :: pieces)

end Pieces

section Searching

variable {P} {text : List α} {pieces : List (α ⊕ μ)}

@[simp] theorem render_nil : render P [] = [] := rfl

@[simp] theorem render_letter (c : α) : render P (.inl c :: pieces) = c :: render P pieces := rfl

@[simp] theorem render_match (m : μ) :
    render P (.inr m :: pieces) = P.write m ++ render P pieces := rfl

theorem read_nil : P.read [] = none := by
  cases read : P.read [] with
  | none => rfl
  | some found =>
      have empty := List.append_eq_nil_iff.mp (P.reads read).symm
      exact absurd empty.1 (P.write_ne_nil found.1)

theorem length_of_read {rest : List α} {m : μ} (read : P.read text = some (m, rest)) :
    rest.length < text.length := by
  have nonempty := List.length_pos_iff.mpr (P.write_ne_nil m)
  rw [P.reads read, List.length_append]
  omega

theorem scans_scanFrom {fuel : Nat} (enough : text.length ≤ fuel) :
    Scans P text (scanFrom P fuel text) := by
  induction fuel generalizing text with
  | zero =>
      obtain rfl := List.length_eq_zero_iff.mp (Nat.le_zero.mp enough)
      exact .done
  | succ fuel ih =>
      cases text with
      | nil => exact .done
      | cons c text =>
          unfold scanFrom
          split
          · next m rest read =>
              have shorter := length_of_read read
              exact .found read (ih (by omega))
          · next none => exact .letter none (ih (Nat.le_of_succ_le_succ enough))

theorem scans_scan (text : List α) : Scans P text (scan P text) := scans_scanFrom (Nat.le_refl _)

/-- There is one way to cut a text into its pieces. -/
theorem Scans.unique {others : List (α ⊕ μ)} (scans : Scans P text pieces)
    (again : Scans P text others) : pieces = others := by
  induction scans generalizing others with
  | done =>
      cases again with
      | done => rfl
      | found here => cases read_nil.symm.trans here
  | found here _ ih =>
      cases again with
      | done => cases read_nil.symm.trans here
      | found there later =>
          cases here.symm.trans there
          rw [ih later]
      | letter none => cases none.symm.trans here
  | letter none _ ih =>
      cases again with
      | found here => cases none.symm.trans here
      | letter _ later => rw [ih later]

theorem Scans.eq_scan (scans : Scans P text pieces) : scan P text = pieces :=
  (scans_scan text).unique scans

theorem Scans.render_eq (scans : Scans P text pieces) : render P pieces = text := by
  induction scans with
  | done => rfl
  | found here _ ih => rw [render_match, ih, P.reads here]
  | letter _ _ ih => rw [render_letter, ih]

theorem render_scan (text : List α) : render P (scan P text) = text := (scans_scan text).render_eq

end Searching

section Edits

/-- All matches begin with the key, and what is read before a key does not depend on what follows
it; a match is read back wherever nothing comes after it that would go on with it. -/
structure Anchored (key : List α) (continues : α → Bool) : Prop where
  key_ne_nil : key ≠ []
  key_stops : ∀ c ∈ key.head?, continues c = false
  begins : ∀ m, key <+: P.write m
  steady : ∀ {before : List α}, before ≠ [] → ∀ x y,
    P.read (before ++ key ++ x) = none → P.read (before ++ key ++ y) = none
  stops : ∀ {text m rest}, P.read text = some (m, rest) → ∀ c ∈ rest.head?, continues c = false
  rereads : ∀ {m rest}, (∀ c ∈ rest.head?, continues c = false) →
    P.read (P.write m ++ rest) = some (m, rest)

variable {P} {key : List α} {continues : α → Bool} {text : List α} {pieces : List (α ⊕ μ)}

@[simp] theorem edit_nil (f : μ → μ) : edit f ([] : List (α ⊕ μ)) = [] := rfl

@[simp] theorem edit_letter (f : μ → μ) (c : α) :
    edit f (.inl c :: pieces) = .inl c :: edit f pieces := rfl

@[simp] theorem edit_match (f : μ → μ) (m : μ) :
    edit f (.inr m :: pieces) = .inr (f m) :: edit f pieces := rfl

/-- The letters up to the first match, and the text of that match with what comes after it, before
and after an edit. -/
theorem split_at_match (anchored : Anchored P key continues) (f : μ → μ)
    (pieces : List (α ⊕ μ)) : render P (edit f pieces) = render P pieces ∨
      ∃ before x y, render P pieces = before ++ key ++ x ∧
        render P (edit f pieces) = before ++ key ++ y := by
  induction pieces with
  | nil => exact .inl rfl
  | cons piece pieces ih =>
      cases piece with
      | inl c =>
          rcases ih with same | ⟨before, x, y, old, new⟩
          · exact .inl (by simp [same])
          · exact .inr ⟨c :: before, x, y, by simp [old], by simp [new]⟩
      | inr m =>
          obtain ⟨x, old⟩ := anchored.begins m
          obtain ⟨y, new⟩ := anchored.begins (f m)
          refine .inr ⟨[], x ++ render P pieces, y ++ render P (edit f pieces), ?_, ?_⟩
          · rw [render_match, ← old, List.nil_append, List.append_assoc]
          · rw [edit_match, render_match, ← new, List.nil_append, List.append_assoc]

theorem head_edit (anchored : Anchored P key continues) (f : μ → μ)
    (stops : ∀ c ∈ (render P pieces).head?, continues c = false) :
    ∀ c ∈ (render P (edit f pieces)).head?, continues c = false := by
  cases pieces with
  | nil => exact stops
  | cons piece pieces =>
      cases piece with
      | inl c => exact stops
      | inr m =>
          obtain ⟨tail, new⟩ := anchored.begins (f m)
          obtain ⟨c, rest, rfl⟩ := List.exists_cons_of_ne_nil anchored.key_ne_nil
          rw [edit_match, render_match, ← new]
          exact anchored.key_stops

/-- The search of an edited text gives the edited pieces. -/
theorem Scans.edited (anchored : Anchored P key continues) (f : μ → μ)
    (scans : Scans P text pieces) : Scans P (render P (edit f pieces)) (edit f pieces) := by
  induction scans with
  | done => exact .done
  | found here later ih =>
      have stops := anchored.stops here
      rw [← later.render_eq] at stops
      exact .found (anchored.rereads (head_edit anchored f stops)) ih
  | @letter c text pieces none later ih =>
      have still : P.read (c :: render P (edit f pieces)) = Option.none := by
        rw [← later.render_eq] at none
        rcases split_at_match anchored f pieces with same | ⟨before, x, y, old, new⟩
        · rw [same]
          exact none
        · -- a match that begins at the letter would be cut off by the key in both texts
          rw [old] at none
          rw [new]
          exact anchored.steady (List.cons_ne_nil c before) x y none
      exact .letter still ih

/-- To put the text of a match in the place of every match is to change the pieces. -/
theorem replaceAll_write (new : μ) (text : List α) :
    replaceAll P (P.write new) text = render P (edit (fun _ => new) (scan P text)) := by
  unfold replaceAll render edit
  rw [List.flatMap_map]
  congr 1
  funext piece
  cases piece <;> rfl

theorem scan_replaceAll (anchored : Anchored P key continues) (new : μ) (text : List α) :
    scan P (replaceAll P (P.write new) text) = edit (fun _ => new) (scan P text) := by
  rw [replaceAll_write]
  exact ((scans_scan text).edited anchored fun _ => new).eq_scan

theorem findSome?_edit (f : μ → μ) (pieces : List (α ⊕ μ)) :
    (edit f pieces).findSome? Sum.getRight? = (pieces.findSome? Sum.getRight?).map f := by
  induction pieces with
  | nil => rfl
  | cons piece pieces ih =>
      cases piece with
      | inl c => exact ih
      | inr m => rfl

/-- The leftmost match of the new text stands where the old one stood. -/
theorem search_replaceAll (anchored : Anchored P key continues) (new : μ) (text : List α) :
    search P (replaceAll P (P.write new) text) = (search P text).map fun _ => new := by
  unfold search
  rw [scan_replaceAll anchored, findSome?_edit]

end Edits

end AeronClusterClient.Lib.Scan
