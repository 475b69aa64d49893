import BookingNotices.Proofs.Blob.Folder

/-!
# Puts and gets of one blob side by side

* `Disk.Reading`      : a get under way: it opens the file that the name stands for, and reads it
  piece by piece;
* `Shared`            : a folder, with the puts and gets of one name that have begun;
* `Shared.Move`, `step`, `run` : a put or a get begins, or takes its next step, in any order;
* `Shared.working`    : how many puts have opened a file and not yet given it its name;
* `Exclusive`         : that is never more than one;
* `Put.Step`          : what a step of a put does (`step_cases`);
* `Steady`            : what every move keeps;
* `Doomed`            : two puts that are at work at once leave one of them without its file, and it
  fails.

A put or a get that gets no other step stands for one that was cancelled.
-/

namespace BookingNotices.Disk

/-! ## Gets under way -/

/-- A get under way. -/
inductive Reading where
  | opening
  /-- so much has been read from the open file -/
  | reading (node : Nat) (bytes : Bytes)
  | ended (result : Except Blob.Error Bytes)

/-- The next step of a get; a reading step reads at most `amount` bytes. -/
def Reading.step (amount : Nat) (d : Disk) (name : String) : Reading → Reading
  | .opening =>
    match Blob.checkName name, d.lookUp name with
    | .error e, _ => .ended (.error e)
    | .ok (), .ok (some (.file node)) => .reading node ByteArray.empty
    | .ok (), .ok (some .folder) => .ended (.error (.medium Fault.isFolder.message))
    | .ok (), .ok none | .ok (), .error .missing => .ended (.error (.notFound name))
    | .ok (), .error f => .ended (.error (.medium f.message))
  | .reading node bytes =>
    if (d.bytesOf node).size ≤ bytes.size then .ended (.ok bytes)
    else .reading node (bytes ++ (d.bytesOf node).extract bytes.size (bytes.size + amount))
  | .ended result => .ended result

variable {d d' : Disk} {name : String} {bytes : Bytes} {node : Nat}

theorem Reading.step_opening (amount : Nat) (d : Disk) (name : String) :
    step amount d name .opening =
      match Blob.checkName name, d.lookUp name with
      | .error e, _ => .ended (.error e)
      | .ok (), .ok (some (.file node)) => .reading node ByteArray.empty
      | .ok (), .ok (some .folder) => .ended (.error (.medium Fault.isFolder.message))
      | .ok (), .ok none | .ok (), .error .missing => .ended (.error (.notFound name))
      | .ok (), .error f => .ended (.error (.medium f.message)) := rfl

theorem Reading.step_end (amount : Nat) (name : String)
    (h : (d.bytesOf node).size ≤ bytes.size) :
    step amount d name (.reading node bytes) = .ended (.ok bytes) := if_pos h

theorem Reading.step_more (amount : Nat) (name : String)
    (h : bytes.size < (d.bytesOf node).size) :
    step amount d name (.reading node bytes) =
      .reading node (bytes ++ (d.bytesOf node).extract bytes.size (bytes.size + amount)) :=
  if_neg (Nat.not_le_of_lt h)

/-! ## Puts and gets of one name -/

/-- A put that has opened a file and not yet given it its name. -/
def Put.isAtWork : Put → Bool
  | .writing .. | .renaming _ => true
  | .opening .. | .ended _ => false

/-- A folder, with the puts and gets of one name that have begun, and the bytes of each put. -/
structure Shared where
  disk : Disk
  puts : List (Bytes × Put) := []
  gets : List Reading := []

/-- What can happen next. -/
inductive Shared.Move where
  | put (bytes : Bytes)
  | get
  | write (put amount : Nat)
  | read (get amount : Nat)

namespace Shared

/-- What happens next. Nothing if there is no such put or get. -/
def step (name : String) (s : Shared) : Move → Shared
  | .put bytes => { s with puts := s.puts ++ [(bytes, Put.start s.disk name bytes)] }
  | .get => { s with gets := s.gets ++ [.opening] }
  | .write i amount =>
    match s.puts[i]? with
    | none => s
    | some (bytes, p) =>
      { s with
        disk := (p.step amount s.disk).2
        puts := s.puts.set i (bytes, (p.step amount s.disk).1) }
  | .read i amount => { s with gets := s.gets.modify i (Reading.step amount s.disk name) }

/-- All that happens, one move after the other. -/
def run (name : String) (s : Shared) (moves : List Move) : Shared := moves.foldl (step name) s

/-- How many puts are at work. -/
def working (s : Shared) : Nat := s.puts.countP (·.2.isAtWork)

/-- At no time are two puts at work. -/
def Exclusive (name : String) : Shared → List Move → Prop
  | s, [] => s.working ≤ 1
  | s, m :: ms => s.working ≤ 1 ∧ Exclusive name (s.step name m) ms

instance decidableExclusive (name : String) :
    (s : Shared) → (moves : List Move) → Decidable (s.Exclusive name moves)
  | s, [] => inferInstanceAs (Decidable (s.working ≤ 1))
  | s, m :: ms =>
    have := decidableExclusive name (s.step name m) ms
    inferInstanceAs (Decidable (s.working ≤ 1 ∧ Exclusive name (s.step name m) ms))

theorem Exclusive.working_le {s : Shared} {moves : List Move} (name : String)
    (h : s.Exclusive name moves) : s.working ≤ 1 := by
  cases moves with
  | nil => exact h
  | cons m moves => exact h.1

/-- The bytes that puts have begun with. -/
def offered (s : Shared) : List Bytes := s.puts.map (·.1)

/-- A move takes one of the puts a step on, or none. -/
theorem write_cases (s : Shared) (name : String) (i amount : Nat) :
    s.step name (.write i amount) = s ∨
      ∃ before after bytes p, s.puts = before ++ (bytes, p) :: after ∧
        s.step name (.write i amount) =
          { s with
            disk := (p.step amount s.disk).2
            puts := before ++ (bytes, (p.step amount s.disk).1) :: after } := by
  unfold step
  dsimp only
  cases hput : s.puts[i]? with
  | none => exact Or.inl rfl
  | some put =>
    obtain ⟨bytes, p⟩ := put
    obtain ⟨hlt, hput⟩ := List.getElem?_eq_some_iff.mp hput
    obtain ⟨before, after, hputs, -, hset⟩ :=
      @List.exists_of_set _ i (bytes, (p.step amount s.disk).1) s.puts hlt
    rw [hput] at hputs
    dsimp only
    rw [hset]
    exact Or.inr ⟨before, after, bytes, p, hputs, rfl⟩

end Shared

/-! ## What a step of a put does -/

/-- The put is one of these bytes under this name, of a size that is accepted. -/
def Put.Of (name : String) (limit : Nat) (bytes : Bytes) : Put → Prop
  | .opening n b => n = name ∧ b = bytes ∧ bytes.size ≤ limit
  | .writing n _ _ _ | .renaming n => n = name ∧ bytes.size ≤ limit
  | .ended _ => True

/-- What a step of a put does to it and to the folder. -/
inductive Put.Step (d : Disk) (name : String) : Put → Put × Disk → Prop where
  | opened (bytes : Bytes) (node : Nat) (d' : Disk)
    (h : Writes d (temporaryName name) node ByteArray.empty d') :
    Step d name (.opening name bytes) (.writing name node 0 bytes, d')
  | wrote (node written : Nat) (piece left : Bytes) :
    Step d name (.writing name node written (piece ++ left))
      (.writing name node (written + piece.size) left, d.writeAt node written piece)
  | closed (node written : Nat) :
    Step d name (.writing name node written ByteArray.empty) (.renaming name, d)
  | named (d' : Disk) (h : Renames d (temporaryName name) name d') :
    Step d name (.renaming name) (.ended (.ok ()), d')
  | lost (h : d.entries.find? (temporaryName name) = none) :
    Step d name (.renaming name) (.ended (.error (.medium Fault.missing.message)), d)
  | rest (result : Except Blob.Error Unit) : Step d name (.ended result) (.ended result, d)

theorem Put.step_cases (hname : d.takes name = .ok ())
    (htmp : d.takes (temporaryName name) = .ok ()) {limit : Nat} {p : Put}
    (hp : p.Of name limit bytes) (amount : Nat) : Put.Step d name p (p.step amount d) := by
  obtain ⟨hreach, -⟩ := takes_eq_ok.mp htmp
  cases p with
  | opening n b =>
    obtain ⟨rfl, rfl, -⟩ := hp
    obtain ⟨node, d', hcreate⟩ := create_of_takes htmp
    rw [step_opening, hcreate]
    exact .opened _ _ _ (create_eq_ok hcreate)
  | writing n node written left =>
    obtain ⟨rfl, -⟩ := hp
    by_cases hempty : left = ByteArray.empty
    · subst hempty
      rw [step_writing_empty]
      exact .closed _ _
    · rw [step_writing _ _ _ _ _ hempty]
      have hstep := @Step.wrote d n node written (left.extract 0 amount)
        (left.extract (left.extract 0 amount).size left.size)
      rwa [extract_append_rest] at hstep
  | «renaming» n =>
    obtain ⟨rfl, -⟩ := hp
    rw [step_renaming]
    by_cases hfound : d.entries.find? (temporaryName n) = none
    · rw [rename_of_missing hreach (takes_eq_ok.mp hname).1 hfound]
      exact .lost hfound
    · obtain ⟨d', hrename⟩ := rename_of_takes hreach hfound hname
      rw [hrename]
      exact .named _ (rename_eq_ok hrename)
  | ended result => exact .rest _

namespace Put.Step

variable {p : Put} {r : Put × Disk} (h : Put.Step d name p r)

include h

theorem place : SamePlace d r.2 := by
  cases h with
  | opened _ _ _ hwrites => exact hwrites.toSamePlace
  | named _ hrenames => exact hrenames.toSamePlace
  | wrote => exact ⟨rfl, rfl, rfl⟩
  | closed | lost | rest => exact SamePlace.refl d

theorem of {limit : Nat} (hp : p.Of name limit bytes) : r.1.Of name limit bytes := by
  cases h with
  | opened => exact ⟨rfl, hp.2.2⟩
  | wrote => exact hp
  | closed => exact hp
  | named | lost | rest => trivial

/-- Where files could be put, they still can. -/
theorem takes (hname : d.takes name = .ok ()) (htmp : d.takes (temporaryName name) = .ok ()) :
    r.2.takes name = .ok () ∧ r.2.takes (temporaryName name) = .ok () := by
  obtain ⟨hreach, hfile⟩ := takes_eq_ok.mp hname
  obtain ⟨hreach', hfile'⟩ := takes_eq_ok.mp htmp
  have hplace := h.place
  rw [takes_eq_ok, takes_eq_ok, hplace.reach, hplace.reach]
  refine ⟨⟨hreach, ?_⟩, hreach', ?_⟩
  · cases h with
    | opened _ _ _ hwrites =>
      rw [hwrites.entries, if_neg (temporaryName_ne name)]
      exact hfile
    | named _ hrenames =>
      rw [hrenames.entries, if_pos rfl]
      exact hfile'
    | wrote | closed | lost | rest => exact hfile
  · cases h with
    | opened _ _ _ hwrites =>
      rw [hwrites.entries, if_pos rfl]
      exact nofun
    | named _ hrenames =>
      rw [hrenames.entries, if_neg (temporaryName_ne name).symm, if_pos rfl]
      exact nofun
    | wrote | closed | lost | rest => exact hfile'

end Put.Step

/-! ## What every move keeps -/

namespace Shared

variable {s : Shared}

/-- The folder is the one that it was, blobs can be put under the name, and the puts are of it. -/
structure Steady (name : String) (d : Disk) (s : Shared) : Prop where
  named : Blob.isName name = true
  place : SamePlace d s.disk
  takes : s.disk.takes name = .ok ()
  opens : s.disk.takes (temporaryName name) = .ok ()
  puts : ∀ put ∈ s.puts, put.2.Of name d.sizeLimit put.1

namespace Steady

theorem of_start (h : s.Steady name d) (bytes : Bytes) :
    (Put.start s.disk name bytes).Of name d.sizeLimit bytes := by
  rcases Nat.lt_or_ge s.disk.sizeLimit bytes.size with hlarge | hsize
  · rw [Put.start_of_tooLarge h.named hlarge]
    trivial
  · rw [Put.start_of_fits h.named hsize]
    exact ⟨rfl, rfl, h.place.sizeLimit ▸ hsize⟩

/-- What a move of the puts does: nothing, or one step of one of them. -/
theorem write_cases (h : s.Steady name d) (i amount : Nat) :
    s.step name (.write i amount) = s ∨
      ∃ before after bytes p r, s.puts = before ++ (bytes, p) :: after ∧
        p.Of name d.sizeLimit bytes ∧ Put.Step s.disk name p r ∧
        s.step name (.write i amount) =
          { s with disk := r.2, puts := before ++ (bytes, r.1) :: after } := by
  refine (s.write_cases name i amount).imp_right ?_
  rintro ⟨before, after, bytes, p, hputs, hstep⟩
  have hp : p.Of name d.sizeLimit bytes := h.puts (bytes, p) (by rw [hputs]; simp)
  exact ⟨before, after, bytes, p, _, hputs, hp, Put.step_cases h.takes h.opens hp amount, hstep⟩

theorem step (h : s.Steady name d) (m : Move) : (s.step name m).Steady name d := by
  cases m with
  | put bytes =>
    refine { h with puts := fun put hput => ?_ }
    rcases List.mem_append.mp hput with hput | hput
    · exact h.puts put hput
    · rw [List.mem_singleton.mp hput]
      exact h.of_start bytes
  | get | read => exact { h with }
  | write i amount =>
    rcases h.write_cases i amount with hsame | ⟨before, after, bytes, p, r, hputs, hp, hr, hstep⟩
    · rw [hsame]
      exact h
    · rw [hstep]
      obtain ⟨htakes, hopens⟩ := hr.takes h.takes h.opens
      refine ⟨h.named, h.place.trans hr.place, htakes, hopens, fun put hput => ?_⟩
      rcases List.mem_cons.mp (List.perm_middle.mem_iff.mp hput) with rfl | hput
      · exact hr.of hp
      · refine h.puts put ?_
        rw [hputs]
        exact List.perm_middle.mem_iff.mpr (List.mem_cons_of_mem _ hput)

end Steady

/-! ## Puts that are at work at once -/

/-- A put of an accepted size has failed, because its file was not there any more. -/
def Failed (limit : Nat) (s : Shared) : Prop :=
  ∃ bytes, bytes.size ≤ limit ∧
    (bytes, Put.ended (.error (.medium Fault.missing.message))) ∈ s.puts

/-- How many files wait to be given the name. -/
def waiting (name : String) (s : Shared) : Nat :=
  if s.disk.entries.find? (temporaryName name) = none then 0 else 1

/-- A put has failed, or more puts are at work than files wait for them. -/
def Doomed (name : String) (limit : Nat) (s : Shared) : Prop :=
  s.Failed limit ∨ s.waiting name < s.working

theorem waiting_le_one (name : String) (s : Shared) : s.waiting name ≤ 1 := by
  unfold waiting
  split <;> omega

theorem working_of_puts {before after : List (Bytes × Put)} {b : Bytes} {p : Put}
    (h : s.puts = before ++ (b, p) :: after) :
    s.working = (before ++ after).countP (·.2.isAtWork) + p.isAtWork.toNat := by
  unfold working
  rw [h, List.countP_append, List.countP_cons, List.countP_append, Nat.add_assoc]
  cases p.isAtWork <;> rfl

theorem Failed.write {limit : Nat} {before after : List (Bytes × Put)} {b : Bytes} {p : Put}
    {r : Put × Disk} (hputs : s.puts = before ++ (b, p) :: after) (hr : Put.Step s.disk name p r)
    (h : s.Failed limit) :
    Failed limit { s with disk := r.2, puts := before ++ (b, r.1) :: after } := by
  obtain ⟨lost, hsize, hmem⟩ := h
  refine ⟨lost, hsize, ?_⟩
  rw [hputs] at hmem
  show _ ∈ before ++ (b, r.1) :: after
  rcases List.mem_append.mp hmem with hmem | hmem
  · exact List.mem_append_left _ hmem
  · rcases List.mem_cons.mp hmem with heq | hmem
    · cases heq
      cases hr
      exact List.mem_append_right _ List.mem_cons_self
    · exact List.mem_append_right _ (List.mem_cons_of_mem _ hmem)

/-- A step of a put keeps more puts at work than files wait for them, or the put fails. -/
theorem Doomed.write {limit : Nat} {before after : List (Bytes × Put)} {b : Bytes} {p : Put}
    {r : Put × Disk} (hputs : s.puts = before ++ (b, p) :: after) (hp : p.Of name limit b)
    (hr : Put.Step s.disk name p r) (h : s.Doomed name limit) :
    Doomed name limit { s with disk := r.2, puts := before ++ (b, r.1) :: after } := by
  refine h.elim (fun hfailed => Or.inl (hfailed.write hputs hr)) fun hlt => ?_
  rw [working_of_puts hputs] at hlt
  unfold Doomed
  rw [working_of_puts rfl]
  unfold waiting at hlt ⊢
  dsimp only
  cases hr with
  | opened bytes node d' hwrites =>
    have hthere : d'.entries.find? (temporaryName name) ≠ none := by
      rw [hwrites.entries, if_pos rfl]
      exact nofun
    rw [if_neg hthere]
    change _ < _ + 0 at hlt
    show _ ∨ _ < _ + 1
    right
    split at hlt <;> omega
  | wrote => exact Or.inr hlt
  | closed => exact Or.inr hlt
  | named d' hrenames =>
    have hgone : d'.entries.find? (temporaryName name) = none := by
      rw [hrenames.entries, if_neg (temporaryName_ne name).symm, if_pos rfl]
    rw [if_neg hrenames.found] at hlt
    rw [if_pos hgone]
    change _ < _ + 1 at hlt
    show _ ∨ _ < _ + 0
    right
    omega
  | lost hlost => exact Or.inl ⟨b, hp.2, List.mem_append_right _ List.mem_cons_self⟩
  | rest => exact Or.inr hlt

theorem Doomed.step (hsteady : s.Steady name d) (h : s.Doomed name d.sizeLimit) (m : Move) :
    (s.step name m).Doomed name d.sizeLimit := by
  cases m with
  | put bytes =>
    refine h.imp (fun ⟨b, hsize, hmem⟩ => ⟨b, hsize, List.mem_append_left _ hmem⟩) fun h => ?_
    show _ < List.countP _ (s.puts ++ _)
    rw [List.countP_append]
    exact Nat.lt_of_lt_of_le h (Nat.le_add_right _ _)
  | get | read => exact h
  | write i amount =>
    rcases hsteady.write_cases i amount with
      hsame | ⟨before, after, bytes, p, r, hputs, hp, hr, hstep⟩
    · rw [hsame]
      exact h
    · rw [hstep]
      exact h.write hputs hp hr

theorem Doomed.run (hsteady : s.Steady name d) (h : s.Doomed name d.sizeLimit)
    (moves : List Move) : (s.run name moves).Doomed name d.sizeLimit := by
  induction moves generalizing s with
  | nil => exact h
  | cons m moves ih => exact ih (hsteady.step m) (h.step hsteady m)

theorem doomed_of_rivals (name : String) (limit : Nat) (h : ¬ s.working ≤ 1) :
    s.Doomed name limit := by
  have hle := s.waiting_le_one name
  exact Or.inr (by omega)

/-- Where two puts were at work at once, more puts are at work than files wait, from then on. -/
theorem doomed_of_not_exclusive {moves : List Move} (hsteady : s.Steady name d)
    (h : ¬ s.Exclusive name moves) : (s.run name moves).Doomed name d.sizeLimit := by
  induction moves generalizing s with
  | nil => exact doomed_of_rivals name d.sizeLimit h
  | cons m moves ih =>
    by_cases hone : s.working ≤ 1
    · exact ih (hsteady.step m) fun hrest => h ⟨hone, hrest⟩
    · exact (doomed_of_rivals name d.sizeLimit hone).run hsteady (m :: moves)

theorem Doomed.failed {limit : Nat} (h : s.Doomed name limit)
    (hended : ∀ put ∈ s.puts, ∃ result, put.2 = .ended result) : s.Failed limit := by
  refine h.resolve_right fun hlt => ?_
  have hnone : s.working = 0 := by
    refine List.countP_eq_zero.mpr fun put hput => ?_
    obtain ⟨result, hresult⟩ := hended put hput
    rw [hresult]
    exact Bool.false_ne_true
  omega

end Shared

end BookingNotices.Disk
