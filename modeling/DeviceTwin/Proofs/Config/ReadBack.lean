import DeviceTwin.Proofs.Config.Layout
import DeviceTwin.Proofs.Files.Tree

/-!
# A saved configuration reads back

What is written for a configuration is one of its layouts, the one that gives every setting
(`isLayout_render`).  So it is read back as the configuration, unless its buffer is too large to be
used; reading is where that is checked, so a file may be saved that cannot be read
(`saved_reads_back`).
-/

namespace DeviceTwin.Config

open Json

/-! ## What is written is a layout -/

theorem gives_renderValue (c : Config) (k : Key) : c.Gives k (c.renderValue k) := by
  cases k with
  | remoteName => exact isString_quote c.remoteName
  | connectOnLaunch => rfl
  | startOnLaunch => rfl
  | logLevel => exact isString_quote c.verbosity.name
  | eventBuffer => rfl

theorem blank_indent : Blank ("\n".toList ++ "  ".toList) := by
  simp [Blank, isSpace]

/-- A member stands behind an indent on its line. -/
theorem exists_isMember_renderMember (c : Config) (k : Key) :
    ∃ t, c.renderMember k = "  ".toList ++ t ∧ IsMember c (some k) t := by
  refine ⟨Json.quote k.name ++ (": ".toList ++ c.renderValue k), ?_, ?_⟩
  · simp only [renderMember, List.append_assoc]
  · apply IsMember.known
    refine ⟨_, denotes_escape k.name, [], blank_nil, [' '], ?_, _, gives_renderValue c k, ?_⟩
    · exact List.forall_mem_singleton.2 rfl
    · simp only [Json.quote, List.append_assoc, List.cons_append]
      rfl

theorem exists_listed_renderMembers (c : Config) (k : Key) (ks : List Key) :
    ∃ t, c.renderMembers (k :: ks) = "  ".toList ++ t ∧ Listed c ((k :: ks).map some) t := by
  induction ks generalizing k with
  | nil =>
    obtain ⟨t, ht, hmember⟩ := exists_isMember_renderMember c k
    exact ⟨t, ht, .one hmember⟩
  | cons next ks ih =>
    obtain ⟨t, ht, hmember⟩ := exists_isMember_renderMember c k
    obtain ⟨u, hu, hlisted⟩ := ih next
    refine ⟨_, ?_, .more hmember blank_nil blank_indent hlisted⟩
    rw [renderMembers, ht, hu]
    simp only [List.append_assoc]
    rfl

/-- What is written for a configuration gives all of its settings. -/
theorem isLayout_render (c : Config) : IsLayout c (Key.all.map some) c.render := by
  obtain ⟨t, ht, hlisted⟩ := exists_listed_renderMembers c .remoteName (Key.all.drop 1)
  have hline : Blank "\n".toList := List.forall_mem_singleton.2 rfl
  refine ⟨[], blank_nil, _, .filled blank_indent hlisted hline, [], blank_nil, ?_⟩
  have hall : c.renderMembers Key.all = "  ".toList ++ t := ht
  rw [render, hall, List.append_nil]
  simp only [List.append_assoc]
  rfl

theorem only_all (c : Config) : c.only Key.all = c := by
  simp [only, Key.all]

/-! ## What is read from a saved file -/

theorem read_of_save {files : Files.Tree} {path : Files.Path} {c : Config}
    (h : (save files path c).2.1 = .ok ()) :
    (save files path c).1.read path = .ok c.toBytes := by
  unfold save at h ⊢
  cases hparents : files.makeParents path with
  | mk made result =>
    cases result with
    | error f =>
      simp only [hparents] at h
      cases h
    | ok made =>
      simp only [hparents] at h ⊢
      cases hwrite : Files.Tree.write _ path c.toBytes with
      | error f =>
        simp only [hwrite] at h
        cases h
      | ok written => exact Files.Tree.read_of_write hwrite

/-- The words for a buffer that is too large name it and the largest one. -/
theorem message_bufferTooLarge (n : UInt64) :
    (BufferTooLarge.mk n).message =
      "eventBuffer ".toList ++ Numeral.render n.toNat ++
        " exceeds the maximum of 65536".toList := by
  have hmax : Numeral.render maxEventBuffer = "65536".toList := by decide
  unfold BufferTooLarge.message
  generalize Numeral.render n.toNat = digits
  rw [hmax, List.append_assoc]
  rfl

/-- The bytes that are written for a configuration are read as that configuration, unless its buffer
is too large to be used: then that, and nothing else, is what is wrong with them.  Those bytes are
what is found in the file after it has been saved. -/
theorem saved_reads_back (c : Config) :
    ofBytes c.toBytes =
      (if c.eventBuffer.toNat ≤ 65536 then .ok c else .error (.bufferTooLarge ⟨c.eventBuffer⟩)) ∧
    (BufferTooLarge.mk c.eventBuffer).message =
      "eventBuffer ".toList ++ Numeral.render c.eventBuffer.toNat ++
        " exceeds the maximum of 65536".toList ∧
    ∀ files path, (save files path c).2.1 = .ok () →
      Config.read (save files path c).1 path = ofBytes c.toBytes := by
  refine ⟨?_, ?_, ?_⟩
  · have hall : (Key.all.map some).reduceOption = Key.all := rfl
    have hread := ofBytes_of_isLayout (isLayout_render c) (by rw [hall]; decide)
    rw [hall, only_all] at hread
    exact hread
  · exact message_bufferTooLarge c.eventBuffer
  · intro files path hsaved
    exact read_eq_ofBytes (read_of_save hsaved)

/-- A file of this kind is saved under directories that are not there yet. -/
theorem saved_reads_back_nested :
    let c : Config := { remoteName := "\"\\\x00\u2028".toList, eventBuffer := 65537 }
    let path := "a/b/c.json".toList
    (save {} path c).2.1 = .ok () ∧
      Config.read (save {} path c).1 path = .error (.bufferTooLarge ⟨65537⟩) := by
  intro c path
  have hsaved : (save {} path c).2.1 = .ok () := rfl
  obtain ⟨hbytes, -, hread⟩ := saved_reads_back c
  exact ⟨hsaved, (hread {} path hsaved).trans hbytes⟩

end DeviceTwin.Config
