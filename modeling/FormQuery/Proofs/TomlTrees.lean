import FormQuery.Proofs.LayeredTrees
import FormQuery.Proofs.Runs
import FormQuery.Settings

/-! The trees of configuration files. Every statement of a file makes sections or sets a leaf that is new, and so each
section has each of its names once. -/

namespace FormQuery.Settings.Toml

open FormQuery.Settings.Tree

variable {tree grown : Tree} {name : String} {found : Value} {path : List String} {document further : Document}
  {text rest : List Char}

/-- A step into a section, which is made where it is missing. -/
theorem once_of_step {step : Tree → Option Tree}
    (keeps : ∀ inner further, step inner = some further → NamesOnce inner → NamesOnce further) (once : tree.NamesOnce)
    (ran : (match Fields.get? tree name with
      | none => (step []).map fun inner => Fields.set tree name (.record inner)
      | some (.record inner) => (step inner).map fun inner => Fields.set tree name (.record inner)
      | some _ => none) = some grown) : grown.NamesOnce := by
  have into {inner : Tree} (own : NamesOnce inner)
      (made : (step inner).map (fun inner => Fields.set tree name (.record inner)) = some grown) : grown.NamesOnce := by
    obtain ⟨further, stepped, rfl⟩ := Option.map_eq_some_iff.mp made
    exact once.set_section (keeps inner further stepped own)
  split at ran
  next => exact into .empty ran
  next inner known => exact into (once.section known) ran
  next => cases ran

theorem makeTable_once (once : tree.NamesOnce) (made : makeTable path tree = some grown) : grown.NamesOnce := by
  induction path generalizing tree grown with
  | nil =>
    obtain rfl := Option.some.inj made
    exact once
  | cons name rest ih => exact once_of_step (fun inner further stepped own => ih own stepped) once made

theorem setNew_once (plain : ¬IsSection found) (once : tree.NamesOnce)
    (made : setNew name found path tree = some grown) : grown.NamesOnce := by
  induction path generalizing tree grown with
  | nil =>
    rw [setNew] at made
    split at made
    next => cases made
    next =>
      obtain rfl := Option.some.inj made
      exact once.set_leaf plain
  | cons part rest ih => exact once_of_step (fun inner further stepped own => ih own stepped) once made

theorem number_plain (read : number text = .ok (found, rest)) : ¬IsSection found := by
  rw [number] at read
  simp only at read
  split at read
  next => cases read
  split at read
  next =>
    obtain ⟨rfl, -⟩ := Prod.mk.inj (Except.ok.inj read)
    simp [IsSection]
  split at read
  next =>
    obtain ⟨rfl, -⟩ := Prod.mk.inj (Except.ok.inj read)
    simp [IsSection]
  next => cases read

/-- A value is a leaf. -/
theorem value_plain (read : value text = .ok (found, rest)) : ¬IsSection found := by
  rw [value.eq_def] at read
  split at read
  next =>
    obtain ⟨⟨shown, more⟩, -, same⟩ := ok_of_map read
    obtain ⟨rfl, -⟩ := Prod.mk.inj same
    simp [IsSection]
  next =>
    obtain ⟨⟨shown, more⟩, -, same⟩ := ok_of_map read
    obtain ⟨rfl, -⟩ := Prod.mk.inj same
    simp [IsSection]
  next =>
    split at read
    next =>
      obtain ⟨rfl, -⟩ := Prod.mk.inj (Except.ok.inj read)
      simp [IsSection]
    next =>
      obtain ⟨rfl, -⟩ := Prod.mk.inj (Except.ok.inj read)
      simp [IsSection]
    next => exact number_plain read

theorem tableLine_once (once : document.tree.NamesOnce) (read : tableLine document text = .ok (further, rest)) :
    further.tree.NamesOnce := by
  rw [tableLine] at read
  obtain ⟨⟨table, more⟩, -, read⟩ := ok_of_bind read
  simp only at read
  split at read
  next =>
    obtain ⟨nothing, stopped, -⟩ := ok_of_bind read
    cases stopped
  split at read
  next => cases read
  next tree made =>
    split at read
    next =>
      obtain ⟨rfl, -⟩ := Prod.mk.inj (Except.ok.inj read)
      exact makeTable_once once made
    next => cases read

theorem keyLine_once (once : document.tree.NamesOnce) (read : keyLine document text = .ok (further, rest)) :
    further.tree.NamesOnce := by
  rw [keyLine] at read
  obtain ⟨⟨path, more⟩, -, read⟩ := ok_of_bind read
  simp only at read
  split at read
  next =>
    obtain ⟨⟨found, last⟩, known, read⟩ := ok_of_bind read
    simp only at read
    split at read
    next => cases read
    split at read
    next tree made =>
      obtain ⟨rfl, -⟩ := Prod.mk.inj (Except.ok.inj read)
      exact setNew_once (value_plain known) once made
    next => cases read
  next => cases read

theorem line_once (once : document.tree.NamesOnce) (read : line document text = .ok further) :
    further.tree.NamesOnce := by
  rw [line] at read
  split at read
  next =>
    obtain rfl := Except.ok.inj read
    exact once
  next =>
    obtain ⟨-, -, read⟩ := ok_of_bind read
    obtain rfl := Except.ok.inj read
    exact once
  next =>
    obtain ⟨⟨grown, more⟩, known, read⟩ := ok_of_bind read
    obtain ⟨-, -, read⟩ := ok_of_bind read
    obtain rfl := Except.ok.inj read
    exact tableLine_once once known
  next =>
    split at read
    next =>
      obtain ⟨⟨grown, more⟩, known, read⟩ := ok_of_bind read
      obtain ⟨-, -, read⟩ := ok_of_bind read
      obtain rfl := Except.ok.inj read
      exact keyLine_once once known
    next => cases read

theorem lines_once {number : Nat} {texts : List (List Char)} (once : document.tree.NamesOnce)
    (read : lines document number texts = .ok further) : further.tree.NamesOnce := by
  induction texts generalizing document number with
  | nil =>
    obtain rfl := Except.ok.inj read
    exact once
  | cons text texts ih =>
    rw [lines] at read
    split at read
    next next known => exact ih (line_once once known) read
    next => cases read

theorem read_once {content : String} (given : read content = .ok tree) : tree.NamesOnce := by
  obtain ⟨document, ran, rfl⟩ := ok_of_map given
  exact lines_once .empty ran

end FormQuery.Settings.Toml
