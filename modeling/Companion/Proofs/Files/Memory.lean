import Companion.Files.Memory
import Mathlib.Data.List.Induction
import Mathlib.Data.List.Nodup

/-! Reading files in memory after files have been written: a file holds the text that was written
last under any spelling of its path. -/

set_option autoImplicit false

namespace Companion.MemoryFiles

theorem lookup_put (key text other : Text) (entries : List (Text × Text)) :
    (put key text entries).lookup other =
      if other = key then some text else entries.lookup other := by
  induction entries with
  | nil =>
      by_cases same : other = key
      · simp [put, same]
      · simp [put, same, beq_false_of_ne same]
  | cons entry rest ih =>
      obtain ⟨held, old⟩ := entry
      by_cases here : held = key
      · subst here
        rw [put, if_pos rfl, List.lookup_cons, List.lookup_cons]
        by_cases same : other = held
        · simp [same]
        · simp [same, beq_false_of_ne same]
      · rw [put, if_neg here, List.lookup_cons, List.lookup_cons, ih]
        by_cases same : other = held
        · subst same
          simp [here]
        · simp [beq_false_of_ne same]

theorem read_write (files : MemoryFiles) (path text other : Text) :
    (files.write path text).read other =
      if Path.normalize other = Path.normalize path then .ok text else files.read other := by
  rw [read, get?, write, lookup_put]
  by_cases same : Path.normalize other = Path.normalize path
  · rw [if_pos same, if_pos same]
  · rw [if_neg same, if_neg same]
    rfl

/-- The files with some more texts written, in order. -/
def writeTexts (files : MemoryFiles) (texts : List (Text × Text)) : MemoryFiles :=
  texts.foldl (fun files file => files.write file.1 file.2) files

/-- Writing in memory never fails. -/
theorem writeAll_eq (files : MemoryFiles) (texts : List (Text × Text)) :
    FileStore.writeAll files texts = (.ok (), texts.map (·.1), files.writeTexts texts) := by
  induction texts generalizing files with
  | nil => rfl
  | cons file rest ih =>
      have others := ih (files.write file.1 file.2)
      rw [FileStore.writeAll]
      change (let (result, tried, store) := FileStore.writeAll (files.write file.1 file.2) rest
        (result, file.1 :: tried, store)) = _
      rw [others]
      rfl

/-- The last of some texts that is for the file that a path names. -/
def lastText? (texts : List (Text × Text)) (path : Text) : Option Text :=
  (texts.reverse.find? fun file => Path.normalize file.1 = Path.normalize path).map (·.2)

theorem read_writeTexts (files : MemoryFiles) (texts : List (Text × Text)) (path : Text) :
    (files.writeTexts texts).read path =
      match lastText? texts path with
      | some text => .ok text
      | none => files.read path := by
  induction texts using List.reverseRecOn with
  | nil => rfl
  | append_singleton texts file ih =>
      have step : files.writeTexts (texts ++ [file]) =
          (files.writeTexts texts).write file.1 file.2 := by
        simp [writeTexts]
      have last : lastText? (texts ++ [file]) path =
          if Path.normalize path = Path.normalize file.1 then some file.2
          else lastText? texts path := by
        rw [lastText?, List.reverse_append, List.reverse_singleton, List.singleton_append,
          List.find?_cons]
        by_cases same : Path.normalize path = Path.normalize file.1
        · simp [same]
        · simp [same, Ne.symm same, lastText?]
      rw [step, read_write, ih, last]
      split <;> rfl

theorem lastText?_eq_none_iff {texts : List (Text × Text)} {path : Text} :
    lastText? texts path = none ↔
      ∀ written ∈ texts.map (·.1), Path.normalize written ≠ Path.normalize path := by
  simp [lastText?]

/-- What has been written can be read. -/
theorem exists_read_writeTexts (files : MemoryFiles) {texts : List (Text × Text)} {path : Text}
    (member : path ∈ texts.map (·.1)) : ∃ text, (files.writeTexts texts).read path = .ok text := by
  cases last : lastText? texts path with
  | none => exact absurd rfl (lastText?_eq_none_iff.mp last path member)
  | some text => exact ⟨text, by rw [read_writeTexts, last]⟩

/-- The only text for a file is the last one. -/
theorem lastText?_of_mem {texts : List (Text × Text)} {file : Text × Text} (member : file ∈ texts)
    (unique : (texts.map (·.1)).Nodup)
    (alone : ∀ written ∈ texts.map (·.1),
      Path.normalize written = Path.normalize file.1 → written = file.1) :
    lastText? texts file.1 = some file.2 := by
  cases found : texts.reverse.find? fun other => Path.normalize other.1 = Path.normalize file.1 with
  | none =>
      rw [List.find?_eq_none] at found
      simpa using found file (List.mem_reverse.mpr member)
  | some other =>
      have inside : other ∈ texts := List.mem_reverse.mp (List.mem_of_find?_eq_some found)
      have sameForm : Path.normalize other.1 = Path.normalize file.1 := by
        simpa using List.find?_some found
      have samePath := alone other.1 (List.mem_map_of_mem inside) sameForm
      have same : other = file := List.inj_on_of_nodup_map unique inside member samePath
      rw [lastText?, found, same]
      rfl

/-! ## Keys -/

theorem mem_map_fst_put {key text other : Text} {entries : List (Text × Text)} :
    other ∈ (put key text entries).map (·.1) ↔ other = key ∨ other ∈ entries.map (·.1) := by
  induction entries with
  | nil => simp [put]
  | cons entry rest ih =>
      obtain ⟨held, old⟩ := entry
      by_cases here : held = key
      · simp [put, here]
      · rw [put, if_neg here, List.map_cons, List.mem_cons, ih, List.map_cons, List.mem_cons]
        tauto

theorem mem_keys_writeTexts {files : MemoryFiles} {texts : List (Text × Text)} {key : Text} :
    key ∈ (files.writeTexts texts).keys ↔
      key ∈ files.keys ∨ ∃ path ∈ texts.map (·.1), Path.normalize path = key := by
  induction texts generalizing files with
  | nil => simp [writeTexts]
  | cons file rest ih =>
      change key ∈ ((files.write file.1 file.2).writeTexts rest).keys ↔ _
      rw [ih, show key ∈ (files.write file.1 file.2).keys ↔ _ from mem_map_fst_put]
      simp only [List.map_cons, List.mem_cons, exists_eq_or_imp, keys]
      tauto

/-! ## Writing the same again -/

theorem put_eq_self {key text : Text} {entries : List (Text × Text)}
    (held : entries.lookup key = some text) : put key text entries = entries := by
  induction entries with
  | nil => cases held
  | cons entry rest ih =>
      obtain ⟨other, old⟩ := entry
      by_cases here : other = key
      · subst here
        obtain rfl : old = text := by simpa using held
        rw [put, if_pos rfl]
      · rw [List.lookup_cons, beq_false_of_ne (Ne.symm here)] at held
        rw [put, if_neg here, ih held]

theorem put_put (key text old : Text) (entries : List (Text × Text)) :
    put key text (put key old entries) = put key text entries := by
  induction entries with
  | nil => simp [put]
  | cons entry rest ih =>
      obtain ⟨other, held⟩ := entry
      by_cases here : other = key
      · simp [put, here]
      · simp [put, here, ih]

/-- Texts for different keys may change places once one of the keys is there. -/
theorem put_comm {key other : Text} (different : key ≠ other) (text otherText : Text)
    {entries : List (Text × Text)} (present : key ∈ entries.map (·.1)) :
    put other otherText (put key text entries) = put key text (put other otherText entries) := by
  induction entries with
  | nil => cases present
  | cons entry rest ih =>
      obtain ⟨held, old⟩ := entry
      by_cases here : held = key
      · subst here
        simp [put, different]
      · have inRest : key ∈ rest.map (·.1) := by
          simpa [Ne.symm here] using present
        by_cases there : held = other
        · subst there
          simp [put, here]
        · simp [put, here, there, ih inRest]

theorem write_eq_self {files : MemoryFiles} {path text : Text} (held : files.read path = .ok text) :
    files.write path text = files := by
  have found : files.entries.lookup (Path.normalize path) = some text := by
    unfold read get? at held
    split at held
    · next found =>
      obtain rfl := Except.ok.inj held
      exact found
    · cases held
  rw [write, put_eq_self found]

/-- A text that is overwritten later need not be written to a file that is there. -/
theorem writeTexts_write_of_mem {files : MemoryFiles} {texts : List (Text × Text)} {path : Text}
    (text : Text) (present : Path.normalize path ∈ files.keys)
    (again : ∃ other ∈ texts.map (·.1), Path.normalize other = Path.normalize path) :
    (files.write path text).writeTexts texts = files.writeTexts texts := by
  induction texts generalizing files with
  | nil => simp at again
  | cons file rest ih =>
      change ((files.write path text).write file.1 file.2).writeTexts rest =
        (files.write file.1 file.2).writeTexts rest
      by_cases same : Path.normalize file.1 = Path.normalize path
      · rw [write, write, same, put_put, write, same]
      · have later : ∃ other ∈ rest.map (·.1), Path.normalize other = Path.normalize path := by
          simpa [same] using again
        have stays : Path.normalize path ∈ (files.write file.1 file.2).keys :=
          mem_map_fst_put.mpr (.inr present)
        rw [← ih stays later, write, write, put_comm (Ne.symm same) _ _ present]
        rfl

theorem lastText?_cons (file : Text × Text) (texts : List (Text × Text)) (path : Text) :
    lastText? (file :: texts) path = (lastText? texts path).or
      (if Path.normalize file.1 = Path.normalize path then some file.2 else none) := by
  rw [lastText?, lastText?, List.reverse_cons, List.find?_append, Option.map_or]
  by_cases same : Path.normalize file.1 = Path.normalize path <;> simp [same]

/-- Writing what the files hold changes nothing, though they hold only the last text for each. -/
theorem writeTexts_eq_self {files : MemoryFiles} {texts : List (Text × Text)}
    (held : ∀ path ∈ texts.map (·.1), ∀ text, lastText? texts path = some text →
      files.read path = .ok text) :
    files.writeTexts texts = files := by
  induction texts generalizing files with
  | nil => rfl
  | cons file rest ih =>
      have others : files.writeTexts rest = files := by
        apply ih
        intro path member text last
        apply held path (List.mem_cons_of_mem _ member)
        rw [lastText?_cons, last, Option.some_or]
      change (files.write file.1 file.2).writeTexts rest = files
      cases later : lastText? rest file.1 with
      | none =>
          have own : files.read file.1 = .ok file.2 := by
            apply held file.1 List.mem_cons_self
            rw [lastText?_cons, later, if_pos rfl, Option.none_or]
          rw [write_eq_self own, others]
      | some text =>
          have again : ∃ other ∈ rest.map (·.1), Path.normalize other = Path.normalize file.1 := by
            by_contra alone
            have none := lastText?_eq_none_iff.mpr fun other member same =>
              alone ⟨other, member, same⟩
            rw [none] at later
            cases later
          have present : Path.normalize file.1 ∈ files.keys := by
            rw [← others]
            exact mem_keys_writeTexts.mpr (.inr again)
          rw [writeTexts_write_of_mem file.2 present again, others]

/-- Texts that have been written can be written again without a change. -/
theorem writeTexts_writeTexts (files : MemoryFiles) (texts : List (Text × Text)) :
    (files.writeTexts texts).writeTexts texts = files.writeTexts texts := by
  apply writeTexts_eq_self
  intro path _ text last
  rw [read_writeTexts, last]

end Companion.MemoryFiles
