import BookingNotices.Service.Delivery

/-!
# Invoices on the shelf

* `Shelf.get_eq_ok`, `put_eq_ok`, `put_eq_error` : what is there, and what a put stores;
* `Shelf.has_put` : a put loses nothing;
* `Shelf.read_cases` : a reading is made to fail, or answers what is there; a mail is composed with
  one reading at most (`Notice.compose_snd`);
* `Notice.isName_documentName`       : the name of an invoice stands for a blob;
* `Notice.documentName_inj`          : different bookings have different names.
-/

namespace BookingNotices

namespace Shelf

theorem get_eq_ok {s : Shelf} {name : String} {bytes : Bytes} :
    s.get name = .ok bytes ↔ s.blobs.find? name = some bytes := by
  unfold get
  split
  · rename_i found hfound
    rw [hfound, Except.ok.injEq, Option.some.injEq]
  · rename_i hnone
    rw [hnone]
    exact ⟨(nomatch ·), (nomatch ·)⟩

/-- A put that succeeds has stored the blob, under a name that stands for one. -/
theorem put_eq_ok {s s' : Shelf} {name : String} {bytes : Bytes}
    (h : s.put name bytes = (.ok (), s')) :
    Blob.isName name = true ∧ s'.blobs = s.blobs.insert name bytes := by
  unfold put Blob.checkName at h
  split at h
  · cases h
  · rename_i hname
    dsimp only at h
    split at h
    · cases h
    · cases h
      refine ⟨?_, rfl⟩
      by_cases hgood : Blob.isName name = true
      · exact hgood
      · rw [if_neg hgood] at hname
        cases hname

/-- A put that fails stores nothing. -/
theorem put_eq_error {s s' : Shelf} {name : String} {bytes : Bytes} {e : Blob.Error}
    (h : s.put name bytes = (.error e, s')) : s'.blobs = s.blobs := by
  unfold put at h
  split at h
  · cases h
    rfl
  · dsimp only at h
    split at h
    · cases h
      rfl
    · cases h

theorem has_of_put {s s' : Shelf} {name : String} {bytes : Bytes}
    (h : s.put name bytes = (.ok (), s')) : s'.has name = true := by
  unfold has Table.has
  rw [(put_eq_ok h).2, Table.find?_insert, if_pos rfl]
  rfl

/-- Whatever becomes of a put, no blob is lost. -/
theorem has_put {s : Shelf} {other : String} (h : s.has other = true) (name : String)
    (bytes : Bytes) : (s.put name bytes).2.has other = true := by
  unfold put
  split
  · exact h
  · dsimp only
    split
    · exact h
    · unfold has Table.has at h ⊢
      rw [Table.find?_insert]
      split
      · rfl
      · exact h

/-- A reading is made to fail, or it answers what is there. -/
theorem read_cases (s : Shelf) (name : String) :
    (∃ reason, s.read name =
        (.error (.medium reason), { s with readFaults := s.readFaults.next.2 })) ∨
      s.read name = (s.get name, { s with readFaults := s.readFaults.next.2 }) := by
  unfold read
  rcases hnext : s.readFaults.next with ⟨_ | reason, faults⟩
  · exact .inr rfl
  · exact .inl ⟨reason, rfl⟩

theorem read_snd (s : Shelf) (name : String) :
    (s.read name).2 = { s with readFaults := s.readFaults.next.2 } := by
  rcases s.read_cases name with ⟨reason, h⟩ | h <;> rw [h]

theorem get_of_read {s s' : Shelf} {name : String} {bytes : Bytes}
    (h : s.read name = (.ok bytes, s')) : s.get name = .ok bytes := by
  rcases s.read_cases name with ⟨reason, hread⟩ | hread
  · rw [hread] at h
    cases h
  · rw [hread] at h
    exact (Prod.mk.inj h).1

/-- What could not be read may be asked for again. -/
theorem isRetryable_of_read {s s' : Shelf} {name : String} {e : Blob.Error}
    (h : s.read name = (.error e, s')) :
    (Notice.Error.ofFailure e.toFailure).isRetryable = true := by
  rcases s.read_cases name with ⟨reason, hread⟩ | hread
  · rw [hread] at h
    cases h
    rfl
  · rw [hread] at h
    obtain ⟨hget, -⟩ := Prod.mk.inj h
    unfold get at hget
    split at hget
    · cases hget
    · cases hget
      rfl

end Shelf

namespace Notice

/-- A mail is composed with one reading at most. -/
theorem compose_snd (n : Notice) (user : User) (email : Email) (shelf : Shelf) :
    (n.compose user email shelf).2 = shelf ∨
      (n.compose user email shelf).2 = (shelf.read n.document).2 := by
  unfold compose
  dsimp only
  split
  · exact .inl rfl
  · split
    · exact .inl rfl
    · rcases shelf.read n.document with ⟨_ | bytes, shelf'⟩ <;> exact .inr rfl

/-- A mail is composed with the blobs as they are. -/
theorem blobs_compose (n : Notice) (user : User) (email : Email) (shelf : Shelf) :
    (n.compose user email shelf).2.blobs = shelf.blobs := by
  rcases n.compose_snd user email shelf with h | h
  · rw [h]
  · rw [h, Shelf.read_snd]

theorem toList_documentName (booking : BookingId) :
    (documentName booking).toList =
      "pdf_invoice_".toList ++ Nat.toDigits 10 booking.toNat ++ ".pdf".toList := by
  unfold documentName BookingId.toText
  rw [String.toList_append, String.toList_append, Nat.toString_eq_repr, Nat.toList_repr]

/-- The name of an invoice stands for a blob. -/
theorem isName_documentName (booking : BookingId) :
    Blob.isName (documentName booking) = true := by
  have hlist := toList_documentName booking
  have hdigits : (Nat.toDigits 10 booking.toNat).all
      (fun c => c != '/' && c != '\\' && c.toNat != 0) = true := by
    rw [List.all_eq_true]
    intro c hc
    have hdigit := Nat.isDigit_of_mem_toDigits (by decide) (by decide) hc
    have hzero := (Char.isDigit_iff_toNat.mp hdigit).1
    have hpositive : c.toNat ≠ 0 := fun h => by
      rw [h] at hzero
      cases hzero
    have hslash : c ≠ '/' := fun h => by
      subst h
      cases hdigit
    have hbackslash : c ≠ '\\' := fun h => by
      subst h
      cases hdigit
    simp [hslash, hbackslash, hpositive]
  have hlong : 12 < (documentName booking).toList.length := by
    rw [hlist]
    simp
  have hother (s : String) (hs : s.toList.length ≤ 12) : documentName booking ≠ s := by
    rintro rfl
    omega
  unfold Blob.isName
  rw [Bool.and_eq_true, Bool.and_eq_true, Bool.and_eq_true]
  refine ⟨⟨⟨?_, ?_⟩, ?_⟩, ?_⟩
  · simpa using hother "" (by decide)
  · simpa using hother "." (by decide)
  · simpa using hother ".." (by decide)
  · rw [hlist, List.all_append, List.all_append, hdigits]
    rfl

/-- A notice with the invoice of a booking has a document. -/
theorem hasDocument_documentName {n : Notice} (booking : BookingId)
    (h : n.document = documentName booking) : n.hasDocument = true := by
  have hname := isName_documentName booking
  unfold Blob.isName at hname
  simp only [Bool.and_eq_true] at hname
  unfold hasDocument
  rw [h]
  exact hname.1.1.1

/-- A claimed notice can be completed with the invoice of a booking. -/
theorem completeWith_documentName {n : Notice} (h : n.status = .processing) (booking : BookingId)
    (now : Timestamp) : n.completeWith (documentName booking) now =
      .ok { n with status := .success, updated := now, document := documentName booking } := by
  have hblank : Text.allBlank (documentName booking) = false := by
    unfold Text.allBlank
    rw [toList_documentName]
    rfl
  unfold completeWith advance
  rw [hblank, h]
  rfl

/-- Different bookings have invoices of different names. -/
theorem documentName_inj {a b : BookingId} (h : documentName a = documentName b) : a = b := by
  have hlist := congrArg String.toList h
  rw [toList_documentName, toList_documentName] at hlist
  have hdigits : Nat.toDigits 10 a.toNat = Nat.toDigits 10 b.toNat :=
    List.append_cancel_left (List.append_cancel_right hlist)
  have hnat : a.toNat = b.toNat := by
    rw [← Nat.ofDigitChars_ten_toDigits (n := a.toNat), hdigits, Nat.ofDigitChars_ten_toDigits]
  cases a
  cases b
  exact congrArg BookingId.mk (UInt32.toNat_inj.mp hnat)

end Notice

end BookingNotices
