import BookingNotices.Proofs.Blob.Folder

/-!
# A folder as a map

* `Disk.Call`, `Disk.calls` : calls that are made one after the other, and their answers;
* `Items.calls`   : the same calls on a map from names to what they stand for;
* `Reached`       : the folders that there can be, all of them sound;
* `Confines`      : a call keeps to the names that it hands to the file system, which lead to what
  is in the folder itself;
* `calls_eq`      : a folder answers as the map in which a put also takes away what the temporary
  name stood for;
* `calls_as_map`  : as the plain map, where no name is the temporary name of another.
-/

namespace BookingNotices.Disk

/-! ## Calls -/

/-- A call for a blob. -/
inductive Call where
  | put (name : String) (bytes : Bytes)
  | get (name : String)
  | has (name : String)

/-- The answer of a call. -/
inductive Answer where
  | put (result : Except Blob.Error Unit)
  | get (result : Except Blob.Error Bytes)
  | has (result : Except Blob.Error Bool)

/-- The medium has failed. -/
def Answer.Faulted : Answer → Prop
  | .put (.error (.medium _)) | .get (.error (.medium _)) | .has (.error (.medium _)) => True
  | _ => False

/-- The name that is called for. -/
def Call.name : Call → String
  | .put name _ | .get name | .has name => name

/-- The names that a call hands to the file system. -/
def Call.names (limit : Nat) : Call → List String
  | .put name bytes =>
    if Blob.isName name = true ∧ bytes.size ≤ limit then [temporaryName name, name] else []
  | .get name | .has name => if Blob.isName name = true then [name] else []

/-- A call, its answer, and the folder behind it. -/
def call (d : Disk) : Call → Answer × Disk
  | .put name bytes => (.put (d.put name bytes).1, (d.put name bytes).2)
  | .get name => (.get (d.get name), d)
  | .has name => (.has (d.has name), d)

/-- The answers of calls that are made one after the other. -/
def calls (d : Disk) : List Call → List Answer
  | [] => []
  | c :: cs => (d.call c).1 :: (d.call c).2.calls cs

/-- What the names of a folder stand for. -/
abbrev Items := String → Option Item

namespace Items

/-- The map in which the name stands for the blob. -/
def set (m : Items) (name : String) (bytes : Bytes) : Items :=
  fun n => if n = name then some (.blob bytes) else m n

/-- The same, where the temporary name stands for nothing. -/
def replace (m : Items) (name : String) (bytes : Bytes) : Items :=
  fun n => if n = name then some (.blob bytes) else if n = temporaryName name then none else m n

/-- A call on a map, into which `store` puts. -/
def call (store : Items → String → Bytes → Items) (limit : Nat) (m : Items) :
    Call → Answer × Items
  | .put name bytes =>
    match Blob.checkName name with
    | .error e => (.put (.error e), m)
    | .ok () =>
      if limit < bytes.size then (.put (.error (.tooLarge bytes.size limit)), m)
      else (.put (.ok ()), store m name bytes)
  | .get name =>
    match Blob.checkName name with
    | .error e => (.get (.error e), m)
    | .ok () => (.get (Item.read name (m name)), m)
  | .has name =>
    match Blob.checkName name with
    | .error e => (.has (.error e), m)
    | .ok () => (.has (.ok (m name).isSome), m)

/-- The answers of calls on a map. -/
def calls (store : Items → String → Bytes → Items) (limit : Nat) (m : Items) :
    List Call → List Answer
  | [] => []
  | c :: cs => (call store limit m c).1 :: calls store limit (call store limit m c).2 cs

theorem call_put (store : Items → String → Bytes → Items) (limit : Nat) (m : Items)
    (name : String) (bytes : Bytes) :
    call store limit m (.put name bytes) =
      match Blob.checkName name with
      | .error e => (.put (.error e), m)
      | .ok () =>
        if limit < bytes.size then (.put (.error (.tooLarge bytes.size limit)), m)
        else (.put (.ok ()), store m name bytes) := rfl

theorem call_get (store : Items → String → Bytes → Items) (limit : Nat) (m : Items)
    (name : String) :
    call store limit m (.get name) =
      match Blob.checkName name with
      | .error e => (.get (.error e), m)
      | .ok () => (.get (Item.read name (m name)), m) := rfl

theorem call_has (store : Items → String → Bytes → Items) (limit : Nat) (m : Items)
    (name : String) :
    call store limit m (.has name) =
      match Blob.checkName name with
      | .error e => (.has (.error e), m)
      | .ok () => (.has (.ok (m name).isSome), m) := rfl

end Items

variable {d d' : Disk} {name : String} {bytes : Bytes} {node : Nat}

/-- A blob that is written and gets its name is what the name stands for, and what the temporary
name stood for is lost. -/
theorem item_of_stored {d'' : Disk} (hsound : d.Sound) (hreach : d.reach name = .ok ())
    (hwrites : Writes d (temporaryName name) node bytes d')
    (hrenames : Renames d' (temporaryName name) name d'') :
    d''.item = Items.replace d.item name bytes := by
  have hplace := hwrites.toSamePlace.trans hrenames.toSamePlace
  have hspares : Spares [temporaryName name, name] d d'' :=
    (hwrites.spares hsound (by simp)).trans (hrenames.spares (by simp) (by simp))
  funext n
  unfold Items.replace
  by_cases hn : n = name
  · subst hn
    have hfile : d''.entries.find? n = some (.file node) := by
      rw [hrenames.entries, if_pos rfl, hwrites.entries, if_pos rfl]
    have hbytes : d''.bytesOf node = bytes := by
      rw [hrenames.bytes, hwrites.bytes, if_pos rfl]
    rw [if_pos rfl, item_of_reach ((hplace.reach n).trans hreach), hfile, ← hbytes]
    rfl
  · rw [if_neg hn]
    by_cases htmp : n = temporaryName name
    · have hnone : d''.entries.find? n = none := by
        rw [hrenames.entries, if_neg (Ne.symm hn), if_pos htmp.symm]
      rw [if_pos htmp]
      unfold item
      rw [hnone]
      split <;> rfl
    · rw [if_neg htmp, hspares.item (by simp [hn, htmp])]

/-! ## Calls one after the other -/

theorem sound_call (hsound : d.Sound) (c : Call) : (d.call c).2.Sound := by
  cases c with
  | put name bytes => exact (put_ends d name bytes).sound hsound
  | get | has => exact hsound

/-- The folders that there can be: one that has not been made, and what becomes of it. -/
inductive Reached : Disk → Prop where
  | fresh (path : List String) (sizeLimit : Nat) : Reached { path := path, sizeLimit := sizeLimit }
  | ensure {d : Disk} (h : Reached d) : Reached d.ensure.2
  | addFolder {d : Disk} (h : Reached d) (path : String) : Reached (d.addFolder path)
  | call {d : Disk} (h : Reached d) (c : Call) : Reached (d.call c).2

/-- Every folder that there can be is sound. -/
theorem Reached.sound (h : Reached d) : d.Sound := by
  induction h with
  | fresh => exact ⟨nofun, nofun⟩
  | ensure _ ih => exact ih.ensure
  | addFolder _ path ih => exact ih.addFolder path
  | call _ c ih => exact sound_call ih c

/-- A call for a name reads and changes what is in the folder itself: what the names stand for that
it hands to the file system. -/
structure Confines (d : Disk) (c : Call) : Prop where
  children : ∀ n ∈ c.names d.sizeLimit, resolve d.path n = d.path ++ [n]
  spares : Spares (c.names d.sizeLimit) d (d.call c).2
  blind : ∀ d', SamePlace d d' → (∀ n ∈ c.names d.sizeLimit, d'.item n = d.item n) →
    (d'.call c).1 = (d.call c).1

theorem isName_of_mem_names {limit : Nat} {c : Call} {n : String} (h : n ∈ c.names limit) :
    Blob.isName n = true := by
  cases c with
  | put name bytes =>
    change n ∈ if Blob.isName name = true ∧ bytes.size ≤ limit then [temporaryName name, name]
      else [] at h
    split at h
    · rename_i haccepted
      rcases List.mem_cons.mp h with rfl | h
      · exact isName_temporaryName haccepted.1
      · rw [List.mem_singleton.mp h]
        exact haccepted.1
    · cases h
  | get name | has name =>
    change n ∈ if Blob.isName name = true then [name] else [] at h
    split at h
    · rename_i hname
      rw [List.mem_singleton.mp h]
      exact hname
    · cases h

theorem spares_call (hsound : d.Sound) (c : Call) :
    Spares (c.names d.sizeLimit) d (d.call c).2 := by
  cases c with
  | put name bytes =>
    show Spares (if Blob.isName name = true ∧ bytes.size ≤ d.sizeLimit then
      [temporaryName name, name] else []) d (d.put name bytes).2
    split
    · exact (put_ends d name bytes).spares hsound
    · rename_i hrejected
      have hsame : (d.put name bytes).2 = d := by
        cases hname : Blob.isName name with
        | false => rw [put_of_badName hname]
        | true => rw [put_of_tooLarge hname (Nat.lt_of_not_le fun h => hrejected ⟨hname, h⟩)]
      rw [hsame]
      exact Spares.refl [] d
  | get | has => exact Spares.refl _ d

/-- The answer of a call is a question of what its names stand for. -/
theorem call_fst_of_item (hplace : SamePlace d d') (c : Call)
    (hitem : ∀ n ∈ c.names d.sizeLimit, d'.item n = d.item n) :
    (d'.call c).1 = (d.call c).1 := by
  cases c with
  | put name bytes =>
    refine congrArg Answer.put ?_
    change ∀ n ∈ if Blob.isName name = true ∧ bytes.size ≤ d.sizeLimit then
      [temporaryName name, name] else [], d'.item n = d.item n at hitem
    cases hname : Blob.isName name with
    | false => rw [put_of_badName hname, put_of_badName hname]
    | true =>
      by_cases hsize : bytes.size ≤ d.sizeLimit
      · rw [if_pos ⟨hname, hsize⟩] at hitem
        rw [(put_ends d' name bytes).fst_eq hname (hplace.sizeLimit.symm ▸ hsize),
          (put_ends d name bytes).fst_eq hname hsize,
          hplace.takes_of_item (hitem _ (by simp)), hplace.takes_of_item (hitem _ (by simp))]
      · have hlarge := Nat.lt_of_not_le hsize
        rw [put_of_tooLarge hname hlarge,
          put_of_tooLarge hname (hplace.sizeLimit.symm ▸ hlarge), hplace.sizeLimit]
  | get name =>
    refine congrArg Answer.get ?_
    change ∀ n ∈ if Blob.isName name = true then [name] else [], d'.item n = d.item n at hitem
    cases hname : Blob.isName name with
    | false =>
      unfold Disk.get Blob.checkName
      rw [hname]
      rfl
    | true =>
      rw [if_pos hname] at hitem
      exact hplace.get (hitem _ (by simp))
  | has name =>
    refine congrArg Answer.has ?_
    change ∀ n ∈ if Blob.isName name = true then [name] else [], d'.item n = d.item n at hitem
    cases hname : Blob.isName name with
    | false =>
      unfold Disk.has Blob.checkName
      rw [hname]
      rfl
    | true =>
      rw [if_pos hname] at hitem
      exact hplace.has (hitem _ (by simp))

theorem confines (hsound : d.Sound) (c : Call) : d.Confines c :=
  ⟨fun _ hn => resolve_of_isName (isName_of_mem_names hn) d.path, spares_call hsound c,
    fun _ hplace hitem => call_fst_of_item hplace c hitem⟩

theorem get_of_fine (hname : Blob.checkName name = .ok ())
    (hfine : ¬ (Answer.get (d.get name)).Faulted) : d.get name = Item.read name (d.item name) := by
  rw [get_eq hname] at hfine ⊢
  generalize d.reach name = reached at hfine ⊢
  cases reached with
  | ok u => rfl
  | error f =>
    cases f with
    | missing => rfl
    | isFolder | nameTooLong | nullCharacter => exact absurd trivial hfine

theorem has_of_fine (hname : Blob.checkName name = .ok ())
    (hfine : ¬ (Answer.has (d.has name)).Faulted) : d.has name = .ok (d.item name).isSome := by
  rw [has_eq hname] at hfine ⊢
  generalize d.reach name = reached at hfine ⊢
  cases reached with
  | ok u => rfl
  | error f =>
    cases f with
    | missing => rfl
    | isFolder | nameTooLong | nullCharacter => exact absurd trivial hfine

/-- A call that meets no fault does to the folder what it does to the map of its names. -/
theorem call_eq (hsound : d.Sound) {c : Call} (hfine : ¬ (d.call c).1.Faulted) :
    Items.call Items.replace d.sizeLimit d.item c = ((d.call c).1, (d.call c).2.item) := by
  cases c with
  | put name bytes =>
    change ¬ (Answer.put (d.put name bytes).1).Faulted at hfine
    show _ = (Answer.put (d.put name bytes).1, (d.put name bytes).2.item)
    rw [Items.call_put]
    have hends := put_ends d name bytes
    generalize d.put name bytes = r at hends hfine ⊢
    cases hends with
    | badName hname =>
      unfold Blob.checkName
      rw [hname]
      rfl
    | tooLarge hname hsize =>
      rw [Blob.checkName_eq_ok.mpr hname]
      exact if_pos hsize
    | unopened | unnamed => exact absurd trivial hfine
    | stored hname hsize hopened htakes hwrites hrenames =>
      rw [Blob.checkName_eq_ok.mpr hname,
        item_of_stored hsound (takes_eq_ok.mp htakes).1 hwrites hrenames]
      exact if_neg (Nat.not_lt.mpr hsize)
  | get name =>
    change ¬ (Answer.get (d.get name)).Faulted at hfine
    show _ = (Answer.get (d.get name), d.item)
    rw [Items.call_get]
    cases hname : Blob.checkName name with
    | error e =>
      unfold Disk.get
      rw [hname]
    | ok u => rw [get_of_fine hname hfine]
  | has name =>
    change ¬ (Answer.has (d.has name)).Faulted at hfine
    show _ = (Answer.has (d.has name), d.item)
    rw [Items.call_has]
    cases hname : Blob.checkName name with
    | error e =>
      unfold Disk.has
      rw [hname]
    | ok u => rw [has_of_fine hname hfine]

theorem calls_eq {cs : List Call} (hsound : d.Sound) (hfine : ∀ a ∈ d.calls cs, ¬ a.Faulted) :
    d.calls cs = Items.calls Items.replace d.sizeLimit d.item cs := by
  induction cs generalizing d with
  | nil => rfl
  | cons c cs ih =>
    have hcall := call_eq hsound (hfine _ List.mem_cons_self)
    have hlimit := (spares_call hsound c).sizeLimit
    have hrest := ih (sound_call hsound c) fun a ha => hfine a (List.mem_cons_of_mem _ ha)
    rw [hlimit] at hrest
    unfold Disk.calls Items.calls
    rw [hcall, hrest]

/-- Where no name that is called for is the temporary name of a blob that is put, nobody sees what
becomes of temporary names. -/
theorem Items.calls_replace {limit : Nat} {cs : List Call} {m m' : Items} (seen : String → Prop)
    (hseen : ∀ c ∈ cs, seen c.name)
    (hapart : ∀ name bytes, .put name bytes ∈ cs → ¬ seen (temporaryName name))
    (hsame : ∀ n, seen n → m n = m' n) :
    Items.calls Items.replace limit m cs = Items.calls Items.set limit m' cs := by
  induction cs generalizing m m' with
  | nil => rfl
  | cons c cs ih =>
    have hseen' := fun c' hc' => hseen c' (List.mem_cons_of_mem _ hc')
    have hapart' := fun name bytes hput => hapart name bytes (List.mem_cons_of_mem _ hput)
    have hname := hsame _ (hseen c List.mem_cons_self)
    unfold Items.calls
    cases c with
    | put name bytes =>
      rw [Items.call_put, Items.call_put]
      cases Blob.checkName name with
      | error e => exact congrArg _ (ih hseen' hapart' hsame)
      | ok u =>
        dsimp only
        split
        · exact congrArg _ (ih hseen' hapart' hsame)
        · refine congrArg _ (ih hseen' hapart' fun n hn => ?_)
          have htmp : n ≠ temporaryName name := fun he =>
            hapart name bytes List.mem_cons_self (he ▸ hn)
          show (if n = name then some (.blob bytes) else if n = temporaryName name then none
            else m n) = if n = name then some (.blob bytes) else m' n
          rw [if_neg htmp, hsame n hn]
    | get name =>
      have hname : m name = m' name := hname
      rw [Items.call_get, Items.call_get, hname]
      cases Blob.checkName name <;> exact congrArg _ (ih hseen' hapart' hsame)
    | has name =>
      have hname : m name = m' name := hname
      rw [Items.call_has, Items.call_has, hname]
      cases Blob.checkName name <;> exact congrArg _ (ih hseen' hapart' hsame)

/-- Calls that meet no fault are answered as by a map in which a put also takes away what the
temporary name stands for: as by the plain map if no name that is called for is the temporary name
of a blob that is put. A put changes no other name; one of a bad name or of too many bytes changes
nothing; and no call goes beyond what is in the folder itself. -/
theorem calls_as_map (hsound : d.Sound) :
    (∀ cs, (∀ a ∈ d.calls cs, ¬ a.Faulted) →
      d.calls cs = Items.calls Items.replace d.sizeLimit d.item cs ∧
      ((∀ name bytes, .put name bytes ∈ cs → ∀ c ∈ cs, c.name ≠ temporaryName name) →
        d.calls cs = Items.calls Items.set d.sizeLimit d.item cs)) ∧
    (∀ name bytes n, n ≠ name → n ≠ temporaryName name →
      (d.put name bytes).2.get n = d.get n ∧ (d.put name bytes).2.has n = d.has n) ∧
    (∀ name bytes, Blob.isName name = false ∨ d.sizeLimit < bytes.size →
      (∃ e, (d.put name bytes).1 = .error e) ∧ (d.put name bytes).2 = d) ∧
    ∀ c, d.Confines c := by
  refine ⟨fun cs hfine => ?_, fun name bytes n hn htmp => ?_, fun name bytes hbad => ?_,
    confines hsound⟩
  · have hcalls := calls_eq hsound hfine
    refine ⟨hcalls, fun hapart => hcalls.trans ?_⟩
    exact Items.calls_replace (fun n => ∃ c ∈ cs, c.name = n) (fun c hc => ⟨c, hc, rfl⟩)
      (fun name bytes hput ⟨c, hc, hname⟩ => hapart name bytes hput c hc hname) fun _ _ => rfl
  · have hspares := (put_ends d name bytes).spares hsound
    have hitem := hspares.item (n := n) (by simp [hn, htmp])
    exact ⟨hspares.get hitem, hspares.has hitem⟩
  · cases hname : Blob.isName name with
    | false =>
      rw [put_of_badName hname]
      exact ⟨⟨_, rfl⟩, rfl⟩
    | true =>
      have hlarge := hbad.resolve_left (by rw [hname]; decide)
      rw [put_of_tooLarge hname hlarge]
      exact ⟨⟨_, rfl⟩, rfl⟩

/-- A folder with nothing in it. -/
def bare (sizeLimit : Nat) : Disk := { made := 1, sizeLimit := sizeLimit }

theorem sound_bare (sizeLimit : Nat) : (bare sizeLimit).Sound :=
  (Reached.fresh ["blobs"] sizeLimit).ensure.sound

/-- Two blobs, neither of which has the temporary name of the other. -/
theorem bare_calls_as_map :
    let cs : List Call := [.put "a" ⟨#[1]⟩, .put "b" ⟨#[2]⟩, .get "a"]
    (bare 4).calls cs = [.put (.ok ()), .put (.ok ()), .get (.ok ⟨#[1]⟩)] ∧
      (bare 4).calls cs = Items.calls Items.set 4 (bare 4).item cs := by
  intro cs
  have hcalls : (bare 4).calls cs = [.put (.ok ()), .put (.ok ()), .get (.ok ⟨#[1]⟩)] := rfl
  have hnames : ∀ c ∈ cs, c.name = "a" ∨ c.name = "b" := by
    simp [cs, Call.name]
  have hfine : ∀ a ∈ (bare 4).calls cs, ¬ a.Faulted := by
    rw [hcalls]
    simp [Answer.Faulted]
  refine ⟨hcalls, ((calls_as_map (sound_bare 4)).1 cs hfine).2 fun name bytes hput c hc => ?_⟩
  have hname : name = "a" ∨ name = "b" := hnames _ hput
  rcases hnames c hc with h | h <;> rw [h] <;> rcases hname with rfl | rfl <;> decide

/-- A blob is lost when another is put under the name of which its own is the temporary one. -/
theorem put_takes_blob_of_temporary_name :
    let cs : List Call :=
      [.put "a.tmp" ⟨#[1]⟩, .put "a" ⟨#[2]⟩, .get "a.tmp", .has "a.tmp"]
    (bare 4).calls cs =
        [.put (.ok ()), .put (.ok ()), .get (.error (.notFound "a.tmp")), .has (.ok false)] ∧
      Items.calls Items.set 4 (bare 4).item cs =
        [.put (.ok ()), .put (.ok ()), .get (.ok ⟨#[1]⟩), .has (.ok true)] :=
  ⟨rfl, rfl⟩

end BookingNotices.Disk
