import BookingNotices.Proofs.Blob.Map
import BookingNotices.Proofs.Blob.Shared

/-!
# Puts that are never at work at once

* `Shared.Gives`      : what a get may answer: what it would have answered at first, or the bytes of
  a put that has begun;
* `Put.Fits`, `Reading.Fits` : a put has written what it should have by now, in a file that waits to
  be given the name; a get reads a file that no put writes any more;
* `Shared.Intact`     : so it is with all puts and gets, and with the name itself (`Intact.step`,
  `Intact.run`);
* `exclusive_puts_are_whole` : where no two puts are at work at once every get answers something
  whole and no put fails; where two are, a put fails.

All puts write under one temporary name. A second put that opens a file while the first is at work
empties the file of the first one.
-/

namespace BookingNotices.Disk

variable {d d' : Disk} {name : String} {bytes : Bytes} {node : Nat}

/-! ## What fits -/

/-- A put has written what it should have by now, in the file of the temporary name. -/
def Put.Fits (d : Disk) (name : String) (bytes : Bytes) : Put → Prop
  | .opening .. => True
  | .writing _ node written left =>
    d.entries.find? (temporaryName name) = some (.file node) ∧ (d.bytesOf node).size = written ∧
      d.bytesOf node ++ left = bytes
  | .renaming _ =>
    ∃ node, d.entries.find? (temporaryName name) = some (.file node) ∧ d.bytesOf node = bytes
  | .ended result => bytes.size ≤ d.sizeLimit → result = .ok ()

/-- A get reads a file that no put writes, and that holds something that may be answered. -/
def Reading.Fits (d : Disk) (name : String) (gives : Except Blob.Error Bytes → Prop) :
    Reading → Prop
  | .opening => True
  | .reading node bytes =>
    node < d.nextNode ∧ d.entries.find? (temporaryName name) ≠ some (.file node) ∧
      gives (.ok (d.bytesOf node)) ∧ ∃ rest, d.bytesOf node = bytes ++ rest
  | .ended result => gives result

/-- A put that is not at work has nothing to do with the files. -/
theorem Put.Fits.of_idle {p : Put} (h : p.Fits d name bytes) (hidle : p.isAtWork = false)
    (hplace : SamePlace d d') : p.Fits d' name bytes := by
  cases p with
  | opening => trivial
  | writing | «renaming» => cases hidle
  | ended result => exact fun hsize => h (hplace.sizeLimit ▸ hsize)

/-- The files that gets may read stay what they are. -/
structure Keeps (name : String) (d d' : Disk) : Prop where
  nextNode_le : d.nextNode ≤ d'.nextNode
  apart : ∀ {k}, k < d.nextNode → d.entries.find? (temporaryName name) ≠ some (.file k) →
    d'.entries.find? (temporaryName name) ≠ some (.file k) ∧ d'.bytesOf k = d.bytesOf k

theorem Keeps.refl (name : String) (d : Disk) : Keeps name d d :=
  ⟨Nat.le_refl _, fun _ hne => ⟨hne, rfl⟩⟩

theorem Writes.keeps (h : Writes d (temporaryName name) node bytes d') : Keeps name d d' := by
  refine ⟨h.nextNode_le, fun {k} hlt hne => ?_⟩
  have hother : node ≠ k := by
    rintro rfl
    rcases h.node with ⟨hfound, -⟩ | ⟨-, hnode, -⟩
    · exact hne hfound
    · exact Nat.ne_of_lt hlt hnode
  rw [h.entries, if_pos rfl, h.bytes, if_neg hother]
  exact ⟨fun he => hother (Entry.file.inj (Option.some.inj he)), rfl⟩

theorem Renames.keeps (h : Renames d (temporaryName name) name d') : Keeps name d d' := by
  refine ⟨Nat.le_of_eq h.nextNode.symm, fun {k} _ _ => ⟨?_, h.bytes k⟩⟩
  rw [h.entries, if_neg (temporaryName_ne name).symm, if_pos rfl]
  exact nofun

theorem Reading.Fits.mono {gives gives' : Except Blob.Error Bytes → Prop} {r : Reading}
    (h : r.Fits d name gives) (hkeeps : Keeps name d d')
    (hgives : ∀ result, gives result → gives' result) : r.Fits d' name gives' := by
  cases r with
  | opening => trivial
  | reading node bytes =>
    obtain ⟨hlt, hne, hwhole, hrest⟩ := h
    obtain ⟨hne', hbytes⟩ := hkeeps.apart hlt hne
    refine ⟨Nat.lt_of_lt_of_le hlt hkeeps.nextNode_le, hne', ?_, ?_⟩
    · rw [hbytes]
      exact hgives _ hwhole
    · rw [hbytes]
      exact hrest
  | ended result => exact hgives _ h

/-! ## What is read -/

theorem get_of_file (hname : Blob.isName name = true) (htakes : d.takes name = .ok ())
    (hfile : d.entries.find? name = some (.file node)) : d.get name = .ok (d.bytesOf node) := by
  obtain ⟨hreach, -⟩ := takes_eq_ok.mp htakes
  rw [get_eq (Blob.checkName_eq_ok.mpr hname), item_of_reach hreach, hfile, hreach]
  rfl

theorem get_of_none (hname : Blob.isName name = true) (htakes : d.takes name = .ok ())
    (hnone : d.entries.find? name = none) : d.get name = .error (.notFound name) := by
  obtain ⟨hreach, -⟩ := takes_eq_ok.mp htakes
  rw [get_eq (Blob.checkName_eq_ok.mpr hname), item_of_reach hreach, hnone, hreach]
  rfl

/-- What may be answered is whole as soon as the file is open, and stays so. -/
theorem Reading.Fits.step {gives : Except Blob.Error Bytes → Prop} {r : Reading}
    (h : r.Fits d name gives) (hsound : d.Sound) (hname : Blob.isName name = true)
    (htakes : d.takes name = .ok ()) (hcurrent : gives (d.get name)) (amount : Nat) :
    (r.step amount d name).Fits d name gives := by
  obtain ⟨hreach, hfile⟩ := takes_eq_ok.mp htakes
  cases r with
  | opening =>
    rw [step_opening, Blob.checkName_eq_ok.mpr hname, lookUp_of_reach hreach]
    cases hfound : d.entries.find? name with
    | none =>
      rw [get_of_none hname htakes hfound] at hcurrent
      exact hcurrent
    | some entry =>
      cases entry with
      | folder => exact absurd hfound hfile
      | file node =>
        rw [get_of_file hname htakes hfound] at hcurrent
        refine ⟨hsound.old hfound, fun htmp => ?_, hcurrent, d.bytesOf node, ?_⟩
        · exact temporaryName_ne name (hsound.own htmp hfound)
        · exact ByteArray.empty_append.symm
  | reading node bytes =>
    obtain ⟨hlt, hne, hwhole, rest, hrest⟩ := h
    by_cases hend : (d.bytesOf node).size ≤ bytes.size
    · have hnone : rest = ByteArray.empty := by
        refine ByteArray.size_eq_zero_iff.mp ?_
        rw [hrest, ByteArray.size_append] at hend
        omega
      rw [step_end _ _ hend]
      rw [hrest, hnone, ByteArray.append_empty] at hwhole
      exact hwhole
    · rw [step_more _ _ (Nat.lt_of_not_le hend)]
      refine ⟨hlt, hne, hwhole, rest.extract (rest.extract 0 amount).size rest.size, ?_⟩
      have hpiece : (d.bytesOf node).extract bytes.size (bytes.size + amount) =
          rest.extract 0 amount := by
        rw [hrest]
        exact ByteArray.extract_append_size_add (i := 0)
      rw [hpiece, ByteArray.append_assoc, extract_append_rest, hrest]
  | ended result => exact h

/-! ## What a step of a put keeps -/

/-- A file that is there holds what it holds. -/
theorem Writes.self (h : d.entries.find? name = some (.file node)) :
    Writes d name node (d.bytesOf node) d := by
  refine ⟨SamePlace.refl d, fun m => ?_, fun k => ?_, Or.inl ⟨h, rfl⟩⟩
  · split
    · rename_i hm
      rw [← hm]
      exact h
    · rfl
  · split
    · rename_i hk
      rw [hk]
    · rfl

/-- A put that writes on writes behind what it has written. -/
theorem Put.Fits.writes {n : String} {written : Nat} {piece left : Bytes}
    (h : (Put.writing n node written (piece ++ left)).Fits d name bytes) :
    Writes d (temporaryName name) node (d.bytesOf node ++ piece)
      (d.writeAt node written piece) := by
  obtain ⟨hfile, rfl, -⟩ := h
  exact (Writes.self hfile).writeAt piece

namespace Put.Step

variable {p : Put} {r : Put × Disk} (h : Put.Step d name p r)

include h

theorem sound (hsound : d.Sound) : r.2.Sound := by
  cases h with
  | opened _ _ _ hwrites => exact hwrites.sound hsound
  | wrote => exact hsound.writeAt ..
  | named _ hrenames => exact hrenames.sound hsound
  | closed | lost | rest => exact hsound

theorem keeps (hfits : p.Fits d name bytes) : Keeps name d r.2 := by
  cases h with
  | opened _ _ _ hwrites => exact hwrites.keeps
  | wrote => exact hfits.writes.keeps
  | named _ hrenames => exact hrenames.keeps
  | closed | lost | rest => exact Keeps.refl name d

theorem fits {limit : Nat} (hfits : p.Fits d name bytes) (hof : p.Of name limit bytes) :
    r.1.Fits r.2 name bytes := by
  cases h with
  | opened b node d' hwrites =>
    obtain ⟨-, rfl, -⟩ := hof
    have hbytes : d'.bytesOf node = ByteArray.empty := (hwrites.bytes node).trans (if_pos rfl)
    refine ⟨(hwrites.entries _).trans (if_pos rfl), ?_, ?_⟩
    · rw [hbytes]
      rfl
    · rw [hbytes, ByteArray.empty_append]
  | wrote node written piece left =>
    have hbytes := (hfits.writes.bytes node).trans (if_pos rfl)
    obtain ⟨hfile, hwritten, hall⟩ := hfits
    refine ⟨hfile, ?_, ?_⟩
    · rw [hbytes, ByteArray.size_append, hwritten]
    · rw [hbytes, ByteArray.append_assoc, hall]
  | closed node written =>
    obtain ⟨hfile, -, hall⟩ := hfits
    rw [ByteArray.append_empty] at hall
    exact ⟨node, hfile, hall⟩
  | named => exact fun _ => rfl
  | lost hlost =>
    obtain ⟨node, hfile, -⟩ := hfits
    rw [hlost] at hfile
    cases hfile
  | rest => exact hfits

/-- A put that changes the folder is at work before its step, or behind it. -/
theorem busy : p.isAtWork = true ∨ r.1.isAtWork = true ∨ r.2 = d := by
  cases h with
  | opened => exact Or.inr (Or.inl rfl)
  | wrote | closed | named | lost => exact Or.inl rfl
  | rest => exact Or.inr (Or.inr rfl)

/-- What the name stands for is changed at once, and only by the step that gives it the file. -/
theorem get_or (hsound : d.Sound) (hname : Blob.isName name = true) (htakes : d.takes name = .ok ())
    (hopens : d.takes (temporaryName name) = .ok ()) (hfits : p.Fits d name bytes) :
    r.2.get name = d.get name ∨ r.2.get name = .ok bytes := by
  have hnot : name ∉ [temporaryName name] := fun hmem =>
    temporaryName_ne name (List.mem_singleton.mp hmem).symm
  have hwritten {node b d'} (hwrites : Writes d (temporaryName name) node b d') :
      d'.get name = d.get name :=
    hwrites.get ((hwrites.spares hsound List.mem_cons_self).item hnot)
  have htakes' := (h.takes htakes hopens).1
  cases h with
  | opened _ _ _ hwrites => exact Or.inl (hwritten hwrites)
  | wrote => exact Or.inl (hwritten hfits.writes)
  | named d' hrenames =>
    obtain ⟨node, hfile, rfl⟩ := hfits
    have hfile' : d'.entries.find? name = some (.file node) := by
      rw [hrenames.entries, if_pos rfl, hfile]
    rw [get_of_file hname htakes' hfile', hrenames.bytes]
    exact Or.inr rfl
  | closed | lost | rest => exact Or.inl rfl

end Put.Step

/-! ## Puts and gets that are intact -/

namespace Shared

variable {s : Shared}

/-- What a get may answer: what it would have answered at first, or the bytes of a put that has
begun. -/
def Gives (name : String) (d : Disk) (s : Shared) (result : Except Blob.Error Bytes) : Prop :=
  result = d.get name ∨ ∃ bytes ∈ s.offered, result = .ok bytes

/-- All puts and gets are as they should be by now. -/
structure Intact (name : String) (d : Disk) (s : Shared) : Prop extends Steady name d s where
  sound : s.disk.Sound
  current : s.Gives name d (s.disk.get name)
  puts_fit : ∀ put ∈ s.puts, put.2.Fits s.disk name put.1
  gets_fit : ∀ r ∈ s.gets, r.Fits s.disk name (s.Gives name d)

theorem idle_of_working {before after : List (Bytes × Put)} {b : Bytes} {p : Put}
    (hputs : s.puts = before ++ (b, p) :: after) (hone : s.working ≤ 1) (hp : p.isAtWork = true) :
    ∀ put ∈ before ++ after, put.2.isAtWork = false := by
  have hworking := working_of_puts hputs
  rw [hp] at hworking
  have hnone : (before ++ after).countP (·.2.isAtWork) = 0 := by
    change _ = _ + 1 at hworking
    omega
  exact fun put hput => Bool.eq_false_iff.mpr (List.countP_eq_zero.mp hnone put hput)

namespace Intact

theorem begin_put (h : s.Intact name d) (b : Bytes) : (s.step name (.put b)).Intact name d := by
  have hgives (result) (hresult : s.Gives name d result) :
      (s.step name (.put b)).Gives name d result := by
    refine hresult.imp_right fun ⟨c, hc, heq⟩ => ⟨c, ?_, heq⟩
    show c ∈ (s.puts ++ _).map _
    rw [List.map_append]
    exact List.mem_append_left _ hc
  refine { h.toSteady.step (.put b) with
    sound := h.sound
    current := hgives _ h.current
    puts_fit := fun put hput => ?_
    gets_fit := fun r hr => (h.gets_fit r hr).mono (Keeps.refl name _) hgives }
  rcases List.mem_append.mp hput with hput | hput
  · exact h.puts_fit put hput
  · rw [List.mem_singleton.mp hput]
    show (Put.start s.disk name b).Fits s.disk name b
    rcases Nat.lt_or_ge s.disk.sizeLimit b.size with hlarge | hsize
    · rw [Put.start_of_tooLarge h.named hlarge]
      exact fun hsize => absurd hlarge (Nat.not_lt.mpr hsize)
    · rw [Put.start_of_fits h.named hsize]
      trivial

theorem begin_get (h : s.Intact name d) : (s.step name .get).Intact name d := by
  refine { h.toSteady.step .get with
    sound := h.sound
    current := h.current
    puts_fit := h.puts_fit
    gets_fit := fun r hr => ?_ }
  rcases List.mem_append.mp hr with hr | hr
  · exact h.gets_fit r hr
  · rw [List.mem_singleton.mp hr]
    trivial

theorem read (h : s.Intact name d) (i amount : Nat) :
    (s.step name (.read i amount)).Intact name d := by
  refine { h.toSteady.step (.read i amount) with
    sound := h.sound
    current := h.current
    puts_fit := h.puts_fit
    gets_fit := fun r hr => ?_ }
  obtain ⟨j, hj⟩ := List.mem_iff_getElem?.mp hr
  change (s.gets.modify i (Reading.step amount s.disk name))[j]? = _ at hj
  rw [List.getElem?_modify] at hj
  obtain ⟨r', hr', heq⟩ := Option.map_eq_some_iff.mp hj
  have hfits := h.gets_fit r' (List.mem_of_getElem? hr')
  split at heq
  · rw [← heq]
    exact hfits.step h.sound h.named h.takes h.current amount
  · rw [← heq]
    exact hfits

/-- If no other put is at work, the others have nothing to do with what a step changes. -/
theorem others_fit (h : s.Intact name d) {before after : List (Bytes × Put)} {b : Bytes} {p : Put}
    {r : Put × Disk} (hputs : s.puts = before ++ (b, p) :: after) (hr : Put.Step s.disk name p r)
    (hone : s.working ≤ 1)
    (hone' : working { s with disk := r.2, puts := before ++ (b, r.1) :: after } ≤ 1) :
    ∀ put ∈ before ++ after, put.2.Fits r.2 name put.1 := by
  intro put hput
  have hold : put.2.Fits s.disk name put.1 := by
    refine h.puts_fit put ?_
    rw [hputs]
    exact List.perm_middle.mem_iff.mpr (List.mem_cons_of_mem _ hput)
  rcases hr.busy with hp | hp | hdisk
  · exact hold.of_idle (idle_of_working hputs hone hp put hput) hr.place
  · exact hold.of_idle (idle_of_working rfl hone' hp put hput) hr.place
  · rw [hdisk]
    exact hold

/-- A step of a put keeps all else as it should be, if no other put is at work. -/
theorem write (h : s.Intact name d) (i amount : Nat) (hone : s.working ≤ 1)
    (hone' : (s.step name (.write i amount)).working ≤ 1) :
    (s.step name (.write i amount)).Intact name d := by
  have hsteady := h.toSteady.step (.write i amount)
  rcases h.toSteady.write_cases i amount with
    hsame | ⟨before, after, b, p, r, hputs, hof, hr, hstep⟩
  · rw [hsame]
    exact h
  · rw [hstep] at hone' hsteady ⊢
    have hfits : p.Fits s.disk name b := h.puts_fit (b, p) (by rw [hputs]; simp)
    have hkeeps := hr.keeps hfits
    have hgives (result) (hresult : s.Gives name d result) :
        Gives name d { s with disk := r.2, puts := before ++ (b, r.1) :: after } result := by
      refine hresult.imp_right fun ⟨c, hc, heq⟩ => ⟨c, ?_, heq⟩
      unfold offered at hc ⊢
      rw [hputs] at hc
      simpa using hc
    refine { hsteady with
      sound := hr.sound h.sound
      current := ?_
      puts_fit := fun put hput => ?_
      gets_fit := fun r hr => (h.gets_fit r hr).mono hkeeps hgives }
    · rcases hr.get_or h.sound h.named h.takes h.opens hfits with hget | hget
      · show Gives _ _ _ (r.2.get name)
        rw [hget]
        exact hgives _ h.current
      · exact Or.inr ⟨b, by unfold offered; simp, hget⟩
    · rcases List.mem_cons.mp (List.perm_middle.mem_iff.mp hput) with rfl | hput
      · exact hr.fits hfits hof
      · exact h.others_fit hputs hr hone hone' put hput

theorem step (h : s.Intact name d) (m : Move) (hone : s.working ≤ 1)
    (hone' : (s.step name m).working ≤ 1) : (s.step name m).Intact name d := by
  cases m with
  | put b => exact h.begin_put b
  | get => exact h.begin_get
  | write i amount => exact h.write i amount hone hone'
  | read i amount => exact h.read i amount

theorem run {moves : List Move} (h : s.Intact name d) (hexclusive : s.Exclusive name moves) :
    (s.run name moves).Intact name d := by
  induction moves generalizing s with
  | nil => exact h
  | cons m moves ih =>
    obtain ⟨hone, hrest⟩ := hexclusive
    exact ih (h.step m hone (hrest.working_le name)) hrest

/-- A folder in which nothing has begun. -/
theorem initial (hsound : d.Sound) (hname : Blob.isName name = true)
    (htakes : d.takes name = .ok ()) (hopens : d.takes (temporaryName name) = .ok ()) :
    Intact name d { disk := d } where
  named := hname
  place := SamePlace.refl d
  takes := htakes
  opens := hopens
  puts := nofun
  sound := hsound
  current := Or.inl rfl
  puts_fit := nofun
  gets_fit := nofun

end Intact

end Shared

open Shared in
/-- Puts and gets of one name begin and go on in any order, in a folder where a blob can be put
under the name. Where no two puts are at work at once, a get that ends answers what it would have
answered at first, or all the bytes of a put that had begun, and a put that ends has stored its
bytes, unless they were too many. Where two puts are at work at once, one of them has failed when
all have ended. -/
theorem exclusive_puts_are_whole (hsound : d.Sound) (hname : Blob.isName name = true)
    (htakes : d.takes name = .ok ()) (hopens : d.takes (temporaryName name) = .ok ())
    (moves : List Move) :
    (Exclusive name { disk := d } moves →
      (∀ result, .ended result ∈ (run name { disk := d } moves).gets →
        result = d.get name ∨
          ∃ bytes ∈ (run name { disk := d } moves).offered, result = .ok bytes) ∧
      (∀ bytes result, (bytes, .ended result) ∈ (run name { disk := d } moves).puts →
        bytes.size ≤ d.sizeLimit → result = .ok ())) ∧
    (¬ Exclusive name { disk := d } moves →
      (∀ put ∈ (run name { disk := d } moves).puts, ∃ result, put.2 = .ended result) →
      (run name { disk := d } moves).Failed d.sizeLimit) := by
  have hinitial := Intact.initial hsound hname htakes hopens
  refine ⟨fun hexclusive => ?_, fun hrivals hended => ?_⟩
  · have hintact := hinitial.run hexclusive
    refine ⟨fun result hmem => hintact.gets_fit _ hmem, fun bytes result hmem hsize => ?_⟩
    exact hintact.puts_fit _ hmem (hintact.place.sizeLimit ▸ hsize)
  · exact (doomed_of_not_exclusive hinitial.toSteady hrivals).failed hended

open Shared in
/-- One put that is read while it is at work, and again behind it. -/
theorem lone_put_is_whole :
    let moves : List Move := [.put ⟨#[1, 2]⟩, .write 0 0, .write 0 1, .get, .read 0 0, .write 0 1,
      .write 0 0, .write 0 0, .get, .read 1 0, .read 1 9, .read 1 0]
    let s := run "a" { disk := bare 4 } moves
    s.gets = [.ended (.error (.notFound "a")), .ended (.ok ⟨#[1, 2]⟩)] ∧
      s.puts = [(⟨#[1, 2]⟩, .ended (.ok ()))] ∧
      ∀ result, .ended result ∈ s.gets →
        result = (bare 4).get "a" ∨ ∃ bytes ∈ s.offered, result = .ok bytes := by
  intro moves s
  have hexclusive : Exclusive "a" { disk := bare 4 } moves := by decide
  refine ⟨rfl, rfl, ?_⟩
  exact ((exclusive_puts_are_whole (sound_bare 4) rfl rfl rfl moves).1 hexclusive).1

open Shared in
/-- A second put opens its file when the first has written its bytes. The first gives the empty file
its name, a get finds it there, and the second put fails. -/
theorem rival_put_shows_nothing_and_fails :
    let moves : List Move := [.put ⟨#[1]⟩, .write 0 0, .write 0 1, .write 0 0, .put ⟨#[2]⟩,
      .write 1 0, .write 0 0, .get, .read 0 0, .read 0 0, .write 1 1, .write 1 0, .write 1 0]
    let s := run "a" { disk := bare 4 } moves
    (bare 4).get "a" = .error (.notFound "a") ∧ s.offered = [⟨#[1]⟩, ⟨#[2]⟩] ∧
      s.gets = [.ended (.ok ByteArray.empty)] ∧
      s.puts = [(⟨#[1]⟩, .ended (.ok ())), (⟨#[2]⟩, .ended (.error (.medium
        "No such file or directory (os error 2)")))] :=
  ⟨rfl, rfl, rfl, rfl⟩

end BookingNotices.Disk
