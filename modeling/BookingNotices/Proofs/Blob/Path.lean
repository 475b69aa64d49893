import BookingNotices.Blob.Disk
import BookingNotices.Text.Parts

/-!
# Names and paths of blobs

* `Blob.isName_iff`     : what a name of a blob is;
* `isName_temporaryName` : the name under which a blob is written is that of another blob;
* `Disk.resolve`        : where a path leads that starts in a folder;
* `resolve_of_isName`   : the name of a blob leads to what is in the folder itself.
-/

namespace BookingNotices

theorem Blob.isName_iff (s : String) :
    isName s = true ↔
      s ≠ "" ∧ s ≠ "." ∧ s ≠ ".." ∧ ∀ c ∈ s.toList, c ≠ '/' ∧ c ≠ '\\' ∧ c.toNat ≠ 0 := by
  unfold isName
  simp only [Bool.and_eq_true, Bool.not_eq_true', List.all_eq_true, bne_iff_ne, and_assoc,
    String.isEmpty_eq_false_iff]

theorem Blob.checkName_eq_ok {s : String} : checkName s = .ok () ↔ isName s = true := by
  unfold checkName
  split
  · rename_i h
    exact ⟨fun _ => h, fun _ => rfl⟩
  · rename_i h
    exact ⟨nofun, fun h' => absurd h' h⟩

namespace Disk

/-! ## Temporary names -/

theorem toList_temporaryName (name : String) :
    (temporaryName name).toList = name.toList ++ ['.', 't', 'm', 'p'] := by
  rw [temporaryName, String.toList_append]
  rfl

/-- A blob is never written under its own name. -/
theorem temporaryName_ne (name : String) : temporaryName name ≠ name := by
  intro h
  have hlength := congrArg (·.toList.length) h
  rw [toList_temporaryName, List.length_append] at hlength
  have hfour : ['.', 't', 'm', 'p'].length = 4 := rfl
  omega

/-- It is written under a name that stands for a blob of its own. -/
theorem isName_temporaryName {name : String} (h : Blob.isName name = true) :
    Blob.isName (temporaryName name) = true := by
  obtain ⟨-, -, -, hplain⟩ := (Blob.isName_iff name).mp h
  have hlong : 4 ≤ (temporaryName name).toList.length := by
    rw [toList_temporaryName, List.length_append]
    exact Nat.le_add_left 4 _
  have hother {s : String} (hs : s.toList.length < 4) : temporaryName name ≠ s := by
    rintro rfl
    omega
  have htail : ∀ c ∈ ['.', 't', 'm', 'p'], c ≠ '/' ∧ c ≠ '\\' ∧ c.toNat ≠ 0 := by
    intro c hc
    simp only [List.mem_cons, List.not_mem_nil, or_false] at hc
    rcases hc with rfl | rfl | rfl | rfl <;> decide
  refine (Blob.isName_iff _).mpr
    ⟨hother (by decide), hother (by decide), hother (by decide), fun c hc => ?_⟩
  rw [toList_temporaryName] at hc
  exact (List.mem_append.mp hc).elim (hplain c) (htail c)

/-! ## Paths -/

/-- Goes along the parts of a path: nothing and one dot stay where they are, two dots go up. -/
def walk (folder : List String) : List String → List String
  | [] => folder
  | part :: rest =>
    if part = "" ∨ part = "." then walk folder rest
    else if part = ".." then walk folder.dropLast rest
    else walk (folder ++ [part]) rest

/-- Where a path leads that starts in a folder, or at the root if a separator comes first. -/
def resolve (folder : List String) (path : String) : List String :=
  walk (if path.toList.head? = some '/' then [] else folder)
    ((Text.parts '/' path.toList).map String.ofList)

/-- A text without separators has one part. -/
theorem parts_of_not_mem {separator : Char} {cs : List Char} (h : separator ∉ cs) :
    Text.parts separator cs = [cs] := by
  induction cs with
  | nil => rfl
  | cons c cs ih =>
    have hc : ¬ c = separator := fun hc => h (hc ▸ List.mem_cons_self)
    unfold Text.parts
    rw [if_neg hc, ih fun hmem => h (List.mem_cons_of_mem _ hmem)]

/-- The name of a blob leads to what is in the folder itself. -/
theorem resolve_of_isName {name : String} (h : Blob.isName name = true) (folder : List String) :
    resolve folder name = folder ++ [name] := by
  obtain ⟨hempty, hdot, hdots, hplain⟩ := (Blob.isName_iff name).mp h
  have hslash : '/' ∉ name.toList := fun hmem => (hplain _ hmem).1 rfl
  have hroot : name.toList.head? ≠ some '/' := fun hhead => hslash (List.mem_of_head? hhead)
  unfold resolve
  rw [if_neg hroot, parts_of_not_mem hslash]
  show walk folder [String.ofList name.toList] = _
  rw [String.ofList_toList]
  unfold walk
  rw [if_neg (not_or.mpr ⟨hempty, hdot⟩), if_neg hdots, walk]

end Disk

end BookingNotices
