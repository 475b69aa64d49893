import BookingNotices.Proofs.Blob.Path
import BookingNotices.Proofs.Blob.Steps

/-!
# What names of a folder stand for

* `Disk.Item`, `Disk.item` : what a name stands for, if it stands for anything;
* `Disk.get_eq`, `has_eq`  : so it is what the two reading calls answer;
* `Disk.Put.Ends`          : how a put may end, and what it leaves (`put_ends`);
* `Disk.Spares`            : all names but some stand for what they stood for (`Put.Ends.spares`).

A put ends in one of five ways. What it does is gone through once, and all else is read off its end.
-/

namespace BookingNotices.Disk

/-- What a name of a folder stands for. -/
inductive Item where
  | blob (bytes : Bytes)
  | folder

/-- What an entry stands for. -/
def itemOf (d : Disk) : Entry → Item
  | .file node => .blob (d.bytesOf node)
  | .folder => .folder

/-- What a name stands for, if it can be looked up and stands for anything. -/
def item (d : Disk) (name : String) : Option Item :=
  match d.reach name with
  | .error _ => none
  | .ok () => (d.entries.find? name).map d.itemOf

/-- What is read where something stands. -/
def Item.read (name : String) : Option Item → Except Blob.Error Bytes
  | some (.blob bytes) => .ok bytes
  | some .folder => .error (.medium Fault.isFolder.message)
  | none => .error (.notFound name)

variable {d d' : Disk} {name : String} {bytes : Bytes} {node : Nat}

/-! ## What names stand for -/

theorem item_of_reach (h : d.reach name = .ok ()) :
    d.item name = (d.entries.find? name).map d.itemOf := by
  unfold item
  rw [h]

/-- Whether a file may have the name is a question of what it stands for. -/
theorem takes_eq (d : Disk) (name : String) :
    d.takes name =
      match d.reach name, d.item name with
      | .error f, _ => .error f
      | .ok (), some .folder => .error .isFolder
      | .ok (), _ => .ok () := by
  unfold takes
  cases hreach : d.reach name with
  | error f => rfl
  | ok u =>
    rw [item_of_reach hreach]
    cases d.entries.find? name with
    | none => rfl
    | some entry => cases entry <;> rfl

/-- What is read is what the name stands for, unless the name cannot be looked up. -/
theorem get_eq (hname : Blob.checkName name = .ok ()) :
    d.get name =
      match d.reach name with
      | .ok () | .error .missing => Item.read name (d.item name)
      | .error f => .error (.medium f.message) := by
  unfold get read
  rw [hname, lookUp_eq]
  dsimp only
  cases hreach : d.reach name with
  | error f =>
    have hitem : d.item name = none := by
      unfold item
      rw [hreach]
    rw [hitem]
    cases f <;> rfl
  | ok u =>
    rw [item_of_reach hreach]
    cases d.entries.find? name with
    | none => rfl
    | some entry => cases entry <;> rfl

theorem has_eq (hname : Blob.checkName name = .ok ()) :
    d.has name =
      match d.reach name with
      | .ok () | .error .missing => .ok (d.item name).isSome
      | .error f => .error (.medium f.message) := by
  unfold has
  rw [hname, lookUp_eq]
  dsimp only
  cases hreach : d.reach name with
  | error f =>
    have hitem : d.item name = none := by
      unfold item
      rw [hreach]
    rw [hitem]
    cases f <;> rfl
  | ok u =>
    rw [item_of_reach hreach]
    cases d.entries.find? name <;> rfl

/-! ## How a put ends -/

theorem Put.run_ended (n : Nat) (result : Except Blob.Error Unit) (d : Disk) :
    Put.run n (.ended result, d) = (.ended result, d) := by
  induction n with
  | zero => rfl
  | succ n ih => exact ih

theorem Put.run_renaming (n : Nat) (name : String) (d : Disk) :
    Put.run (n + 1) (.renaming name, d) =
      match d.rename (temporaryName name) name with
      | .error f => (.ended (.error (.medium f.message)), d)
      | .ok d' => (.ended (.ok ()), d') := by
  show Put.run n (Put.step 0 d (.renaming name)) = _
  rw [Put.step_renaming]
  cases d.rename (temporaryName name) name <;> exact Put.run_ended ..

/-- What is left is written in one piece. -/
theorem Put.run_writing {tmp : String} (h : Writes d tmp node ByteArray.empty d') :
    ∃ n d'', Writes d tmp node bytes d'' ∧
      Put.run 3 (.writing name node 0 bytes, d') = Put.run (n + 1) (.renaming name, d'') := by
  by_cases hempty : bytes = ByteArray.empty
  · subst hempty
    exact ⟨1, d', h, rfl⟩
  · have hwrites := h.writeAt bytes
    rw [ByteArray.empty_append] at hwrites
    refine ⟨0, _, hwrites, ?_⟩
    show Put.run 2 (Put.step bytes.size d' (.writing name node 0 bytes)) = _
    rw [Put.step_writing _ _ _ _ _ hempty, ByteArray.extract_zero_size, ByteArray.extract_same]
    rfl

/-- How a put ends, and what it leaves. -/
inductive Put.Ends (d : Disk) (name : String) (bytes : Bytes) :
    Except Blob.Error Unit × Disk → Prop where
  | badName (hname : Blob.isName name = false) : Ends d name bytes (.error (.badName name), d)
  | tooLarge (hname : Blob.isName name = true) (hsize : d.sizeLimit < bytes.size) :
    Ends d name bytes (.error (.tooLarge bytes.size d.sizeLimit), d)
  /-- no file could be opened -/
  | unopened {f} (hname : Blob.isName name = true) (hsize : bytes.size ≤ d.sizeLimit)
    (htakes : d.takes (temporaryName name) = .error f) :
    Ends d name bytes (.error (.medium f.message), d)
  /-- the file could not be given its name -/
  | unnamed {f node d'} (hname : Blob.isName name = true) (hsize : bytes.size ≤ d.sizeLimit)
    (hopened : d.takes (temporaryName name) = .ok ()) (htakes : d.takes name = .error f)
    (hwrites : Writes d (temporaryName name) node bytes d') :
    Ends d name bytes (.error (.medium f.message), d')
  | stored {node d' d''} (hname : Blob.isName name = true) (hsize : bytes.size ≤ d.sizeLimit)
    (hopened : d.takes (temporaryName name) = .ok ()) (htakes : d.takes name = .ok ())
    (hwrites : Writes d (temporaryName name) node bytes d')
    (hrenames : Renames d' (temporaryName name) name d'') :
    Ends d name bytes (.ok (), d'')

theorem put_of_run {result : Except Blob.Error Unit}
    (h : Put.run 4 (Put.start d name bytes, d) = (.ended result, d')) :
    d.put name bytes = (result, d') := by
  unfold put
  rw [h]

theorem put_of_ended {result : Except Blob.Error Unit}
    (h : Put.start d name bytes = .ended result) : d.put name bytes = (result, d) :=
  put_of_run (by rw [h]; exact Put.run_ended ..)

theorem put_ends_of_fits (hname : Blob.isName name = true) (hsize : bytes.size ≤ d.sizeLimit) :
    Put.Ends d name bytes (d.put name bytes) := by
  have hfirst : Put.run 4 (Put.start d name bytes, d) =
      Put.run 3 (Put.step 0 d (.opening name bytes)) := by
    rw [Put.start_of_fits hname hsize]
    rfl
  rw [Put.step_opening] at hfirst
  cases hopened : d.takes (temporaryName name) with
  | error f =>
    rw [create_of_takes_error hopened] at hfirst
    rw [put_of_run (hfirst.trans (Put.run_ended ..))]
    exact .unopened hname hsize hopened
  | ok u =>
    obtain ⟨node, d₁, hcreate⟩ := create_of_takes hopened
    obtain ⟨n, d₂, hwrites, hwritten⟩ := Put.run_writing (create_eq_ok hcreate)
    rw [hcreate] at hfirst
    have hrun := (hfirst.trans hwritten).trans (Put.run_renaming n name d₂)
    have hreach : d₂.reach (temporaryName name) = .ok () :=
      (hwrites.reach _).trans (takes_eq_ok.mp hopened).1
    have hthere : d₂.entries.find? (temporaryName name) ≠ none := by
      rw [hwrites.entries, if_pos rfl]
      exact nofun
    have hsame : d₂.takes name = d.takes name :=
      hwrites.takes ((hwrites.entries name).trans (if_neg (temporaryName_ne name)))
    cases htakes : d.takes name with
    | error f =>
      rw [rename_of_takes_error hreach hthere (hsame.trans htakes)] at hrun
      rw [put_of_run hrun]
      exact .unnamed hname hsize hopened htakes hwrites
    | ok u =>
      obtain ⟨d₃, hrename⟩ := rename_of_takes hreach hthere (hsame.trans htakes)
      rw [hrename] at hrun
      rw [put_of_run hrun]
      exact .stored hname hsize hopened htakes hwrites (rename_eq_ok hrename)

theorem put_ends (d : Disk) (name : String) (bytes : Bytes) :
    Put.Ends d name bytes (d.put name bytes) := by
  cases hname : Blob.isName name with
  | false =>
    rw [put_of_ended (Put.start_of_badName hname)]
    exact .badName hname
  | true =>
    rcases Nat.lt_or_ge d.sizeLimit bytes.size with hlarge | hsize
    · rw [put_of_ended (Put.start_of_tooLarge hname hlarge)]
      exact .tooLarge hname hlarge
    · exact put_ends_of_fits hname hsize

theorem put_of_badName (hname : Blob.isName name = false) :
    d.put name bytes = (.error (.badName name), d) :=
  put_of_ended (Put.start_of_badName hname)

theorem put_of_tooLarge (hname : Blob.isName name = true) (hsize : d.sizeLimit < bytes.size) :
    d.put name bytes = (.error (.tooLarge bytes.size d.sizeLimit), d) :=
  put_of_ended (Put.start_of_tooLarge hname hsize)

/-! ## What calls leave alone -/

/-- Every name but these stands for what it stood for. -/
structure Spares (names : List String) (d d' : Disk) : Prop extends SamePlace d d' where
  entries : ∀ {n}, n ∉ names → d'.entries.find? n = d.entries.find? n
  bytes : ∀ {n k}, n ∉ names → d.entries.find? n = some (.file k) → d'.bytesOf k = d.bytesOf k

namespace Spares

variable {names : List String}

theorem refl (names : List String) (d : Disk) : Spares names d d :=
  ⟨SamePlace.refl d, fun _ => rfl, fun _ _ => rfl⟩

theorem trans {d'' : Disk} (h : Spares names d d') (h' : Spares names d' d'') :
    Spares names d d'' where
  toSamePlace := h.toSamePlace.trans h'.toSamePlace
  entries hn := (h'.entries hn).trans (h.entries hn)
  bytes hn hfound := (h'.bytes hn ((h.entries hn).trans hfound)).trans (h.bytes hn hfound)

theorem item (h : Spares names d d') {n : String} (hn : n ∉ names) : d'.item n = d.item n := by
  unfold Disk.item
  rw [h.reach, h.entries hn]
  cases d.reach n with
  | error f => rfl
  | ok u =>
    dsimp only
    cases hfound : d.entries.find? n with
    | none => rfl
    | some entry =>
      cases entry with
      | file k => exact congrArg (some ∘ Item.blob) (h.bytes hn hfound)
      | folder => rfl

end Spares

/-- What is not read cannot change what is read. -/
theorem SamePlace.get (h : SamePlace d d') {n : String} (hitem : d'.item n = d.item n) :
    d'.get n = d.get n := by
  cases hname : Blob.checkName n with
  | error e =>
    unfold Disk.get
    rw [hname]
  | ok u => rw [get_eq hname, get_eq hname, h.reach, hitem]

theorem SamePlace.has (h : SamePlace d d') {n : String} (hitem : d'.item n = d.item n) :
    d'.has n = d.has n := by
  cases hname : Blob.checkName n with
  | error e =>
    unfold Disk.has
    rw [hname]
  | ok u => rw [has_eq hname, has_eq hname, h.reach, hitem]

theorem Writes.spares {names : List String} (h : Writes d name node bytes d') (hsound : d.Sound)
    (hname : name ∈ names) : Spares names d d' where
  toSamePlace := h.toSamePlace
  entries hn := (h.entries _).trans (if_neg (ne_of_mem_of_not_mem hname hn))
  bytes hn hfound := (h.bytes _).trans
    (if_neg (h.ne_node hsound (ne_of_mem_of_not_mem hname hn) hfound))

theorem Renames.spares {names : List String} {source target : String}
    (h : Renames d source target d') (hsource : source ∈ names) (htarget : target ∈ names) :
    Spares names d d' where
  toSamePlace := h.toSamePlace
  entries hn := (h.entries _).trans <|
    (if_neg (ne_of_mem_of_not_mem htarget hn)).trans (if_neg (ne_of_mem_of_not_mem hsource hn))
  bytes _ _ := h.bytes _

theorem SamePlace.takes_of_item (h : SamePlace d d') {n : String} (hitem : d'.item n = d.item n) :
    d'.takes n = d.takes n := by
  rw [takes_eq, takes_eq, h.reach, hitem]

/-! ## What a put leaves -/

namespace Put.Ends

variable {r : Except Blob.Error Unit × Disk} (h : Put.Ends d name bytes r)

include h

theorem sound (hsound : d.Sound) : r.2.Sound := by
  cases h with
  | badName | tooLarge | unopened => exact hsound
  | unnamed _ _ _ _ hwrites => exact hwrites.sound hsound
  | stored _ _ _ _ hwrites hrenames => exact hrenames.sound (hwrites.sound hsound)

/-- A put leaves all names alone but its own and the temporary one. -/
theorem spares (hsound : d.Sound) : Spares [temporaryName name, name] d r.2 := by
  cases h with
  | badName | tooLarge | unopened => exact Spares.refl _ d
  | unnamed _ _ _ _ hwrites => exact hwrites.spares hsound (by simp)
  | stored _ _ _ _ hwrites hrenames =>
    exact (hwrites.spares hsound (by simp)).trans (hrenames.spares (by simp) (by simp))

/-- The answer of a put that is accepted is a question of what its names stand for. -/
theorem fst_eq (hname : Blob.isName name = true) (hsize : bytes.size ≤ d.sizeLimit) :
    r.1 =
      match d.takes (temporaryName name), d.takes name with
      | .ok (), .ok () => .ok ()
      | .error f, _ | .ok (), .error f => .error (.medium f.message) := by
  cases h with
  | badName hbad => cases hname.symm.trans hbad
  | tooLarge _ hlarge => exact absurd hsize (Nat.not_le_of_lt hlarge)
  | unopened _ _ hopened => rw [hopened]
  | unnamed _ _ hopened htakes => rw [hopened, htakes]
  | stored _ _ hopened htakes => rw [hopened, htakes]

end Put.Ends

end BookingNotices.Disk
