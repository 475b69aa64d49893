import BookingNotices.Blob.Disk
import BookingNotices.Proofs.Table

/-!
# The steps of a folder

* `Disk.reach`     : whether the file system can look a name up at all; what the name stands for is
  another question (`lookUp_eq`);
* `Disk.takes`     : whether it lets a file have the name;
* `Disk.SamePlace` : two states of one folder, which reach the same names;
* `Disk.Sound`     : every name stands for a file of its own;
* `Writes`, `Renames` : what opening, writing and renaming do to names, files and bytes
  (`create_eq_ok`, `Writes.writeAt`, `rename_eq_ok`), and when they can be done (`create_of_takes`,
  `rename_of_takes`, `rename_of_missing`).
-/

namespace BookingNotices.Disk

variable {d d' : Disk} {name source target : String} {node : Nat}

/-! ## Names that can be looked up -/

/-- Whether the file system can look the name up. -/
def reach (d : Disk) (name : String) : Except Fault Unit :=
  match checkPath (d.path ++ [name]), d.path.drop d.made with
  | .error f, _ => .error f
  | .ok (), folder :: _ => if isShort folder then .error .missing else .error .nameTooLong
  | .ok (), [] => if isShort name then .ok () else .error .nameTooLong

theorem lookUp_eq (d : Disk) (name : String) :
    d.lookUp name = (d.reach name).map fun () => d.entries.find? name := by
  unfold lookUp reach
  cases checkPath (d.path ++ [name]) with
  | error f => rfl
  | ok u =>
    cases d.path.drop d.made with
    | nil =>
      dsimp only
      split <;> rfl
    | cons folder _ =>
      dsimp only
      split <;> rfl

theorem reach_of_lookUp {entry : Option Entry} (h : d.lookUp name = .ok entry) :
    d.reach name = .ok () := by
  rw [lookUp_eq] at h
  cases hreach : d.reach name with
  | error f =>
    rw [hreach] at h
    cases h
  | ok u => rfl

theorem lookUp_of_reach (h : d.reach name = .ok ()) :
    d.lookUp name = .ok (d.entries.find? name) := by
  rw [lookUp_eq, h]
  rfl

theorem find?_of_lookUp {entry : Option Entry} (h : d.lookUp name = .ok entry) :
    d.entries.find? name = entry :=
  Except.ok.inj ((lookUp_of_reach (reach_of_lookUp h)).symm.trans h)

/-- Whether the file system lets a file have the name. -/
def takes (d : Disk) (name : String) : Except Fault Unit :=
  match d.reach name, d.entries.find? name with
  | .error f, _ => .error f
  | .ok (), some .folder => .error .isFolder
  | .ok (), _ => .ok ()

theorem takes_eq_ok :
    d.takes name = .ok () ↔ d.reach name = .ok () ∧ d.entries.find? name ≠ some .folder := by
  unfold takes
  cases d.reach name with
  | error f => exact ⟨nofun, nofun⟩
  | ok u =>
    cases d.entries.find? name with
    | none => exact ⟨fun _ => ⟨rfl, nofun⟩, fun _ => rfl⟩
    | some entry =>
      cases entry with
      | file node => exact ⟨fun _ => ⟨rfl, nofun⟩, fun _ => rfl⟩
      | folder => exact ⟨nofun, fun h => absurd rfl h.2⟩

theorem takes_eq_error {f : Fault} :
    d.takes name = .error f ↔ d.reach name = .error f ∨
      (d.reach name = .ok () ∧ d.entries.find? name = some .folder ∧ f = .isFolder) := by
  unfold takes
  cases d.reach name with
  | error f' => simp
  | ok u =>
    cases d.entries.find? name with
    | none => simp
    | some entry => cases entry <;> simp [eq_comm]

/-- Two states of one folder. -/
structure SamePlace (d d' : Disk) : Prop where
  path : d'.path = d.path
  made : d'.made = d.made
  sizeLimit : d'.sizeLimit = d.sizeLimit

theorem SamePlace.refl (d : Disk) : SamePlace d d := ⟨rfl, rfl, rfl⟩

theorem SamePlace.trans {d'' : Disk} (h : SamePlace d d') (h' : SamePlace d' d'') :
    SamePlace d d'' :=
  ⟨h'.path.trans h.path, h'.made.trans h.made, h'.sizeLimit.trans h.sizeLimit⟩

theorem SamePlace.reach (h : SamePlace d d') (name : String) : d'.reach name = d.reach name := by
  unfold Disk.reach
  rw [h.path, h.made]

/-- A name that stands for the same is taken alike. -/
theorem SamePlace.takes (h : SamePlace d d')
    (hsame : d'.entries.find? name = d.entries.find? name) : d'.takes name = d.takes name := by
  unfold Disk.takes
  rw [h.reach, hsame]

/-! ## Files of their own -/

/-- Every name that stands for a file stands for one of its own, and for none that is still to be
made. -/
structure Sound (d : Disk) : Prop where
  old : ∀ {name node}, d.entries.find? name = some (.file node) → node < d.nextNode
  own : ∀ {name name' node}, d.entries.find? name = some (.file node) →
    d.entries.find? name' = some (.file node) → name = name'

theorem Sound.ensure (h : d.Sound) : d.ensure.2.Sound := by
  unfold Disk.ensure
  split
  · exact h
  · exact ⟨h.old, h.own⟩

/-- A name that is given to a folder stands for no file. -/
theorem Sound.insert_folder (h : d.Sound) (name : String) :
    Sound { d with entries := d.entries.insert name .folder } := by
  have hfile {m : String} {k : Nat}
      (hm : (d.entries.insert name .folder).find? m = some (.file k)) :
      d.entries.find? m = some (.file k) := by
    rw [Table.find?_insert] at hm
    split at hm
    · cases hm
    · exact hm
  exact ⟨fun hm => h.old (hfile hm), fun hm hm' => h.own (hfile hm) (hfile hm')⟩

theorem Sound.addFolder (h : d.Sound) (path : String) : (d.addFolder path).Sound := by
  have hensured := h.ensure
  unfold Disk.addFolder
  generalize d.ensure = ensured at hensured ⊢
  obtain ⟨result, d'⟩ := ensured
  dsimp only
  split
  · split
    · exact hensured
    · exact hensured.insert_folder _
  · exact hensured

theorem bytesOf_insert (d : Disk) (node other : Nat) (bytes : Bytes) :
    bytesOf { d with contents := d.contents.insert node bytes } other =
      if node = other then bytes else d.bytesOf other := by
  unfold bytesOf
  rw [Table.find?_insert]
  split <;> rfl

/-! ## Opening and writing -/

/-- These bytes stand under the name, in the file that it stood for or in a new one. -/
structure Writes (d : Disk) (name : String) (node : Nat) (bytes : Bytes) (d' : Disk) : Prop
    extends SamePlace d d' where
  entries : ∀ m, d'.entries.find? m = if name = m then some (.file node) else d.entries.find? m
  bytes : ∀ k, d'.bytesOf k = if node = k then bytes else d.bytesOf k
  node : (d.entries.find? name = some (.file node) ∧ d'.nextNode = d.nextNode) ∨
    (d.entries.find? name = none ∧ node = d.nextNode ∧ d'.nextNode = d.nextNode + 1)

theorem create_eq_ok (h : d.create name = .ok (node, d')) :
    Writes d name node ByteArray.empty d' := by
  unfold create at h
  split at h
  · cases h
  · cases h
  · rename_i found hfound
    cases h
    have hfind := find?_of_lookUp hfound
    refine ⟨⟨rfl, rfl, rfl⟩, fun m => ?_, (bytesOf_insert d node · _), Or.inl ⟨hfind, rfl⟩⟩
    split
    · rename_i hm
      rw [← hm]
      exact hfind
    · rfl
  · rename_i hfound
    cases h
    exact ⟨⟨rfl, rfl, rfl⟩, fun m => Table.find?_insert name m _ _,
      (bytesOf_insert d d.nextNode · _), Or.inr ⟨find?_of_lookUp hfound, rfl, rfl⟩⟩

theorem create_of_takes (h : d.takes name = .ok ()) :
    ∃ node d', d.create name = .ok (node, d') := by
  obtain ⟨hreach, hfile⟩ := takes_eq_ok.mp h
  unfold create
  rw [lookUp_of_reach hreach]
  cases hentry : d.entries.find? name with
  | none => exact ⟨_, _, rfl⟩
  | some entry =>
    cases entry with
    | file node => exact ⟨_, _, rfl⟩
    | folder => exact absurd hentry hfile

theorem create_of_takes_error {f : Fault} (h : d.takes name = .error f) :
    d.create name = .error f := by
  unfold create
  rw [lookUp_eq]
  rcases takes_eq_error.mp h with hreach | ⟨hreach, hfolder, rfl⟩
  · rw [hreach]
    rfl
  · rw [hreach, hfolder]
    rfl

/-- A piece that is written behind the bytes makes them longer. -/
theorem overwritten_at_end (bytes piece : Bytes) :
    overwritten bytes bytes.size piece = bytes ++ piece := by
  unfold overwritten
  have hgap : ByteArray.mk (Array.replicate (bytes.size - bytes.size) 0) = ByteArray.empty := by
    rw [Nat.sub_self]
    rfl
  have hrest : bytes.extract (bytes.size + piece.size) bytes.size = ByteArray.empty :=
    ByteArray.extract_eq_empty_iff.mpr (by omega)
  rw [hgap, hrest, ByteArray.extract_zero_size, ByteArray.append_empty, ByteArray.append_empty]

theorem Sound.writeAt (h : d.Sound) (node offset : Nat) (piece : Bytes) :
    (d.writeAt node offset piece).Sound := ⟨h.old, h.own⟩

theorem bytesOf_writeAt (d : Disk) (node : Nat) (piece : Bytes) (k : Nat) :
    (d.writeAt node (d.bytesOf node).size piece).bytesOf k =
      if node = k then d.bytesOf node ++ piece else d.bytesOf k := by
  unfold writeAt
  rw [bytesOf_insert, overwritten_at_end]

namespace Writes

variable {bytes : Bytes} (h : Writes d name node bytes d')

include h

theorem writeAt (piece : Bytes) :
    Writes d name node (bytes ++ piece) (d'.writeAt node bytes.size piece) := by
  have hbytes : d'.bytesOf node = bytes := (h.bytes node).trans (if_pos rfl)
  refine { h with bytes := fun k => ?_ }
  rw [← hbytes, bytesOf_writeAt, hbytes, h.bytes]
  split <;> rfl

theorem node_lt (hsound : d.Sound) : node < d'.nextNode := by
  rcases h.node with ⟨hfound, hnext⟩ | ⟨-, hnode, hnext⟩
  · have := hsound.old hfound
    omega
  · omega

theorem nextNode_le : d.nextNode ≤ d'.nextNode := by
  rcases h.node with ⟨-, hnext⟩ | ⟨-, -, hnext⟩ <;> omega

/-- No other name stands for the file that is written. -/
theorem ne_node (hsound : d.Sound) {m : String} {k : Nat} (hm : name ≠ m)
    (hfound : d.entries.find? m = some (.file k)) : node ≠ k := by
  rintro rfl
  rcases h.node with ⟨hname, -⟩ | ⟨-, hnode, -⟩
  · exact hm (hsound.own hname hfound)
  · exact Nat.ne_of_lt (hsound.old hfound) hnode

theorem sound (hsound : d.Sound) : d'.Sound := by
  refine ⟨fun {m k} hfound => ?_, fun {m m' k} hm hm' => ?_⟩
  · rw [h.entries] at hfound
    split at hfound
    · cases hfound
      exact h.node_lt hsound
    · exact Nat.lt_of_lt_of_le (hsound.old hfound) h.nextNode_le
  · rw [h.entries] at hm hm'
    by_cases hname : name = m
    · by_cases hname' : name = m'
      · exact hname.symm.trans hname'
      · rw [if_pos hname] at hm
        rw [if_neg hname'] at hm'
        cases hm
        exact absurd rfl (h.ne_node hsound hname' hm')
    · rw [if_neg hname] at hm
      by_cases hname' : name = m'
      · rw [if_pos hname'] at hm'
        cases hm'
        exact absurd rfl (h.ne_node hsound hname hm)
      · rw [if_neg hname'] at hm'
        exact hsound.own hm hm'

end Writes

/-! ## Renaming -/

/-- A file has got another name, in place of what the name stood for. -/
structure Renames (d : Disk) (source target : String) (d' : Disk) : Prop
    extends SamePlace d d' where
  entries : ∀ m, d'.entries.find? m =
    if target = m then d.entries.find? source
    else if source = m then none else d.entries.find? m
  found : d.entries.find? source ≠ none
  contents : d'.contents = d.contents
  nextNode : d'.nextNode = d.nextNode

theorem rename_eq_ok (h : d.rename source target = .ok d') : Renames d source target d' := by
  unfold rename at h
  split at h
  · cases h
  · cases h
  · cases h
  · cases h
  · rename_i entry _ _ hsource _
    cases h
    have hfind := find?_of_lookUp hsource
    refine ⟨⟨rfl, rfl, rfl⟩, fun m => ?_, by rw [hfind]; exact nofun, rfl, rfl⟩
    show Table.find? m (Table.insert target entry (Table.erase source d.entries)) = _
    rw [Table.find?_insert, Table.find?_erase, hfind]

/-- A file that is there can be given every name that takes one. -/
theorem rename_of_takes (hsource : d.reach source = .ok ())
    (hfound : d.entries.find? source ≠ none) (h : d.takes target = .ok ()) :
    ∃ d', d.rename source target = .ok d' := by
  obtain ⟨hreach, hfile⟩ := takes_eq_ok.mp h
  unfold rename
  rw [lookUp_of_reach hsource, lookUp_of_reach hreach]
  cases hentry : d.entries.find? source with
  | none => exact absurd hentry hfound
  | some entry =>
    cases htarget : d.entries.find? target with
    | none => exact ⟨_, rfl⟩
    | some entry' =>
      cases entry' with
      | file node => exact ⟨_, rfl⟩
      | folder => exact absurd htarget hfile

theorem rename_of_takes_error {f : Fault} (hsource : d.reach source = .ok ())
    (hfound : d.entries.find? source ≠ none) (h : d.takes target = .error f) :
    d.rename source target = .error f := by
  obtain ⟨entry, hentry⟩ := Option.ne_none_iff_exists'.mp hfound
  unfold rename
  rw [lookUp_of_reach hsource, lookUp_eq, hentry]
  rcases takes_eq_error.mp h with hreach | ⟨hreach, hfolder, rfl⟩
  · rw [hreach]
    rfl
  · rw [hreach, hfolder]
    rfl

/-- What is not there cannot be given another name. -/
theorem rename_of_missing (hsource : d.reach source = .ok ()) (htarget : d.reach target = .ok ())
    (hmissing : d.entries.find? source = none) : d.rename source target = .error .missing := by
  unfold rename
  rw [lookUp_of_reach hsource, lookUp_of_reach htarget, hmissing]

namespace Renames

variable (h : Renames d source target d')

include h

theorem bytes (k : Nat) : d'.bytesOf k = d.bytesOf k := by
  unfold bytesOf
  rw [h.contents]

theorem sound (hsound : d.Sound) : d'.Sound := by
  -- the file of a name is that of the source, or it was the name's own
  have hfrom {m : String} {k : Nat} (hm : d'.entries.find? m = some (.file k)) :
      (target = m ∧ d.entries.find? source = some (.file k)) ∨
        (target ≠ m ∧ source ≠ m ∧ d.entries.find? m = some (.file k)) := by
    rw [h.entries] at hm
    split at hm
    · rename_i htarget
      exact Or.inl ⟨htarget, hm⟩
    · rename_i htarget
      split at hm
      · cases hm
      · rename_i hsource
        exact Or.inr ⟨htarget, hsource, hm⟩
  refine ⟨fun {m k} hm => ?_, fun {m m' k} hm hm' => ?_⟩
  · rw [h.nextNode]
    rcases hfrom hm with ⟨-, hk⟩ | ⟨-, -, hk⟩ <;> exact hsound.old hk
  · rcases hfrom hm with ⟨htarget, hk⟩ | ⟨-, hsource, hk⟩ <;>
      rcases hfrom hm' with ⟨htarget', hk'⟩ | ⟨-, hsource', hk'⟩
    · exact htarget.symm.trans htarget'
    · exact absurd (hsound.own hk hk') hsource'
    · exact absurd (hsound.own hk' hk) hsource
    · exact hsound.own hk hk'

end Renames

/-! ## The steps of a put -/

/-- A piece from the beginning of bytes, and what is left of them. -/
theorem extract_append_rest (bytes : Bytes) (amount : Nat) :
    bytes.extract 0 amount ++ bytes.extract (bytes.extract 0 amount).size bytes.size = bytes := by
  rcases Nat.le_total amount bytes.size with hle | hge
  · have hsize : (bytes.extract 0 amount).size = amount := by
      rw [ByteArray.size_extract, Nat.min_eq_left hle, Nat.sub_zero]
    rw [hsize, ByteArray.extract_append_extract, Nat.zero_min, Nat.max_eq_right hle,
      ByteArray.extract_zero_size]
  · have hall : bytes.extract 0 amount = bytes := by
      rw [← Nat.max_eq_left hge, ByteArray.extract_zero_max_size]
    rw [hall, ByteArray.extract_same, ByteArray.append_empty]

namespace Put

theorem step_opening (amount : Nat) (d : Disk) (name : String) (bytes : Bytes) :
    step amount d (.opening name bytes) =
      match d.create (temporaryName name) with
      | .error f => (.ended (.error (.medium f.message)), d)
      | .ok (node, d') => (.writing name node 0 bytes, d') := rfl

theorem step_writing_empty (amount : Nat) (d : Disk) (name : String) (node written : Nat) :
    step amount d (.writing name node written ByteArray.empty) = (.renaming name, d) := rfl

theorem step_writing (amount : Nat) (d : Disk) (name : String) (node written : Nat) {left : Bytes}
    (h : left ≠ ByteArray.empty) :
    step amount d (.writing name node written left) =
      (.writing name node (written + (left.extract 0 amount).size)
        (left.extract (left.extract 0 amount).size left.size),
        d.writeAt node written (left.extract 0 amount)) := by
  have hsome : ¬ left.isEmpty = true := fun hempty =>
    h (ByteArray.size_eq_zero_iff.mp (beq_iff_eq.mp hempty))
  exact if_neg hsome

theorem step_renaming (amount : Nat) (d : Disk) (name : String) :
    step amount d (.renaming name) =
      match d.rename (temporaryName name) name with
      | .error f => (.ended (.error (.medium f.message)), d)
      | .ok d' => (.ended (.ok ()), d') := rfl

variable {bytes : Bytes}

theorem start_of_badName (hname : Blob.isName name = false) :
    start d name bytes = .ended (.error (.badName name)) := by
  unfold start Blob.checkName
  rw [hname]
  rfl

theorem start_of_tooLarge (hname : Blob.isName name = true) (hsize : d.sizeLimit < bytes.size) :
    start d name bytes = .ended (.error (.tooLarge bytes.size d.sizeLimit)) := by
  unfold start Blob.checkName
  rw [if_pos hname]
  exact if_pos hsize

theorem start_of_fits (hname : Blob.isName name = true) (hsize : bytes.size ≤ d.sizeLimit) :
    start d name bytes = .opening name bytes := by
  unfold start Blob.checkName
  rw [if_pos hname]
  exact if_neg (Nat.not_lt.mpr hsize)

end Put

end BookingNotices.Disk
