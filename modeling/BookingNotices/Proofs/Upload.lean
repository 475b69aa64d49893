import BookingNotices.Proofs.Copy

/-!
# What a worker puts on the shelf, and what it takes from there

* `Worker.upload?`     : the blob that the next step of a worker stores;
* `Worker.blobs_step`  : a step stores that blob, and changes no other;
* `Notice.compose_eq_ok`, `Worker.compose_of_step` : a mail with an invoice carries what is on the
  shelf when it is composed;
* `Acts.resolves`, `Acts.composes`, `Acts.sending_of_handed` : who composes a mail next, who sends
  it, and who hands it over.

The invoice is stored before the outcome is, and is not handed on: the mail is composed from the
shelf.
-/

namespace BookingNotices

namespace World

theorem shelf_frame : Frame fun w w' => w'.shelf = w.shelf where
  refl _ := rfl
  trans h₁ h₂ := h₂.trans h₁
  storeFails w c := by
    unfold World.storeFails
    split <;> rfl
  now _ := rfl
  freshId _ := rfl

theorem shelf_publishes : Publishes fun w w' => w'.shelf = w.shelf := fun _ _ => rfl

/-- A creation stores no blob. -/
theorem shelf_create (w : World) (booking : BookingId) (cause : Option String) :
    (w.create booking cause).2.shelf = w.shelf :=
  Transaction.Respects.run shelf_frame (fun _ _ => rfl)
    (.create shelf_frame shelf_publishes booking cause) _ w

end World

/-! ## Mail with an invoice -/

/-- A mail with an invoice carries what is on the shelf. -/
theorem Notice.compose_eq_ok {n : Notice} {user : User} {email : Email} {shelf : Shelf}
    {mail : Mail.Message} (h : (n.compose user email shelf).1 = .ok mail)
    (hattach : email.attachInvoice = true) : ∃ bytes, shelf.get n.document = .ok bytes ∧
      mail.attachment = some ⟨n.document, Invoice.contentType, bytes⟩ := by
  unfold compose at h
  dsimp only at h
  rw [hattach] at h
  split at h
  · rename_i hplain
    cases hplain
  · split at h
    · cases h
    · split at h
      · cases h
      · rename_i bytes shelf' hread
        cases h
        exact ⟨bytes, Shelf.get_of_read hread, rfl⟩

namespace Worker

/-- A mail is composed next only if the outcome has just been stored. -/
theorem Acts.resolves {k : Worker} {w w' : World} {n : Notice} {user : User} {email : Notice.Email}
    {ds : List Deed} (h : k.Acts w (.composing n user email) w' ds) : k.Resolves w n w' := by
  cases h with
  | worked _ hk' => cases hk'
  | landed hresolves => exact hresolves

/-- A mail is sent next only if it has just been composed. -/
theorem Acts.composes {k : Worker} {w w' : World} {n : Notice} {mail : Mail.Message}
    {ds : List Deed} (h : k.Acts w (.sending n mail) w' ds) :
    ∃ user email, k = .composing n user email := by
  cases h with
  | worked _ hk' => cases hk'
  | composed hcomposing => exact ⟨_, _, hcomposing⟩

/-- The mail that is composed next tells the booking whose outcome was stored. -/
theorem forBooking_of_step {since : Timestamp} {n m : Notice} {booking : Booking}
    {user user' : User} {email : Notice.Email} {w : World}
    (h : ((Worker.resolving since n booking user).step w).1 = .composing m user' email) :
    Notice.Email.forBooking booking = some email := by
  dsimp only [step] at h
  split at h
  · cases h
  · split at h
    · cases h
    · cases h
    · unfold afterResolving at h
      dsimp only at h
      split at h
      · cases h
      · rename_i hemail
        cases h
        exact hemail

/-- The mail that is sent next was composed from the shelf. -/
theorem compose_of_step {n m : Notice} {user : User} {email : Notice.Email} {mail : Mail.Message}
    {w : World} (h : ((Worker.composing n user email).step w).1 = .sending m mail) :
    m = n ∧ (n.compose user email w.shelf).1 = .ok mail := by
  dsimp only [step] at h
  split at h
  · cases h
  · rename_i hcompose
    cases h
    exact ⟨rfl, by rw [hcompose]⟩

/-- A mail is handed over by the worker that sends it. -/
theorem Acts.sending_of_handed {k k' : Worker} {w w' : World} {ds : List Deed}
    (h : k.Acts w k' w' ds) {n : Notice} {mail : Mail.Message} {accepted : Bool}
    (hd : .handed n mail accepted ∈ ds) : k = .sending n mail := by
  cases h with
  | refused hk =>
    cases hd with
    | head => exact hk
    | tail _ hd => nomatch hd
  | accepted hk =>
    cases hd with
    | head => exact hk
    | tail _ hd => nomatch hd
  | _ => nomatch hd

/-! ## Storing an invoice -/

/-- The blob that the next step of a worker stores. -/
def upload? (w : World) : Worker → Option (String × Bytes)
  | .storing _ booking _ invoice =>
    match w.render invoice with
    | (.error _, _) => none
    | (.ok bytes, w) =>
      match w.shelf.put (Notice.documentName booking.id) bytes with
      | (.error _, _) => none
      | (.ok (), _) => some (Notice.documentName booking.id, bytes)
  | _ => none

/-- Only invoices are stored, each under the name of its booking. -/
theorem upload?_eq_some {k : Worker} {w : World} {name : String} {bytes : Bytes}
    (h : k.upload? w = some (name, bytes)) : ∃ n booking user invoice,
      k = .storing n booking user invoice ∧ name = Notice.documentName booking.id := by
  cases k with
  | storing n booking user invoice =>
    refine ⟨n, booking, user, invoice, rfl, ?_⟩
    unfold upload? at h
    dsimp only at h
    split at h
    · cases h
    · split at h
      · cases h
      · cases h
        rfl
  | _ => cases h

/-- Only a worker that stores an invoice changes the blobs. -/
theorem blobs_kept {k : Worker} (h : ∀ n booking user invoice, k ≠ .storing n booking user invoice)
    (w : World) : (k.step w).2.shelf.blobs = w.shelf.blobs := by
  cases k with
  | claiming id =>
    exact congrArg Shelf.blobs <| Transaction.Respects.run World.shelf_frame (fun _ _ => rfl)
      (.claim World.shelf_frame World.shelf_publishes id) _ w
  | renewing id threshold =>
    exact congrArg Shelf.blobs <| Transaction.Respects.run World.shelf_frame (fun _ _ => rfl)
      (.renew World.shelf_frame id threshold) _ w
  | findingBooking =>
    dsimp only [step]
    split <;> rfl
  | findingUser =>
    dsimp only [step]
    split
    · rfl
    · unfold afterUser
      split <;> rfl
  | findingShowtime =>
    dsimp only [step]
    split <;> rfl
  | findingSeat =>
    dsimp only [step]
    split <;> rfl
  | storing n booking user invoice => exact absurd rfl (h n booking user invoice)
  | resolving =>
    dsimp only [step]
    split
    · rename_i hfails
      exact congrArg Shelf.blobs (World.shelf_frame.of_storeFails hfails)
    · rename_i w' hfails
      have hshelf := congrArg Shelf.blobs (World.shelf_frame.of_storeFails hfails)
      split <;> exact hshelf
  | composing n user email =>
    have hblobs := n.blobs_compose user email w.shelf
    dsimp only [step]
    split
    · rename_i hcompose
      rwa [hcompose] at hblobs
    · rename_i hcompose
      rwa [hcompose] at hblobs
  | sending =>
    dsimp only [step]
    split <;> rfl
  | ended => rfl

theorem blobs_storing (n : Notice) (booking : Booking) (user : User) (invoice : Invoice.Params)
    (w : World) :
    (∃ name bytes, (Worker.storing n booking user invoice).upload? w = some (name, bytes) ∧
      ((Worker.storing n booking user invoice).step w).2.shelf.blobs =
        w.shelf.blobs.insert name bytes) ∨
    (Worker.storing n booking user invoice).upload? w = none ∧
      ((Worker.storing n booking user invoice).step w).2.shelf.blobs = w.shelf.blobs := by
  dsimp only [step, upload?, storeInvoice, World.render, Supply.next]
  cases w.renderers.answer w.renderers.used invoice with
  | error f => exact Or.inr ⟨rfl, rfl⟩
  | ok bytes =>
    dsimp only
    cases hput : w.shelf.put (Notice.documentName booking.id) bytes with
    | mk result shelf =>
      cases result with
      | error e => exact Or.inr ⟨rfl, Shelf.put_eq_error hput⟩
      | ok done => exact Or.inl ⟨_, bytes, rfl, (Shelf.put_eq_ok hput).2⟩

/-- A step stores its blob, if it has one, and changes no other. -/
theorem blobs_step (k : Worker) (w : World) :
    (∃ name bytes, k.upload? w = some (name, bytes) ∧
      (k.step w).2.shelf.blobs = w.shelf.blobs.insert name bytes) ∨
    k.upload? w = none ∧ (k.step w).2.shelf.blobs = w.shelf.blobs := by
  cases k with
  | storing n booking user invoice => exact blobs_storing n booking user invoice w
  | _ =>
    refine Or.inr ⟨rfl, ?_⟩
    exact blobs_kept (fun _ _ _ _ => Worker.noConfusion) w

end Worker

end BookingNotices
