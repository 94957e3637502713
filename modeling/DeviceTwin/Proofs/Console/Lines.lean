import DeviceTwin.Console.Stream
import DeviceTwin.Proofs.Text.Lines
import DeviceTwin.Proofs.Text.Utf8

/-!
# Lines of encoded texts

Splitting the bytes of a text at line feeds gives the bytes of its lines (`splitLines_encode`): a
line feed is a byte of no other character.  Together with `decode_encode` this is what lets a
session that reads bytes be described by the lines of a text.
-/

namespace DeviceTwin

namespace Console

theorem lineFeed_mem_encode_iff (t : Text) : lineFeed ∈ Utf8.encode t ↔ '\n' ∈ t := by
  have hline : ∀ c, lineFeed ∈ String.utf8EncodeChar c ↔ c = '\n' := by
    intro c
    constructor
    · intro h
      have hnat : c.toNat = 10 := Utf8.toNat_of_mem_utf8EncodeChar h (by decide)
      rw [← Char.ofNat_toNat c, hnat]
    · rintro rfl
      decide
  simp only [Utf8.encode, List.mem_flatMap, hline]
  simp

/-- A line ends at the first line feed. -/
theorem splitLines_append_lineFeed {line : Bytes} (h : lineFeed ∉ line) (rest : Bytes) :
    splitLines (line ++ lineFeed :: rest) =
      ((line ++ [lineFeed]) :: (splitLines rest).1, (splitLines rest).2) := by
  induction line with
  | nil => simp [splitLines]
  | cons b line ih =>
    simp only [List.mem_cons, not_or] at h
    have hb : b ≠ lineFeed := Ne.symm h.1
    simp [splitLines, hb, ih h.2]

theorem splitLines_encode_join {ended : List Text} {last : Text}
    (hended : ∀ line ∈ ended, '\n' ∉ line) (hlast : '\n' ∉ last) :
    splitLines (Utf8.encode (Text.join '\n' (ended ++ [last]))) =
      (ended.map fun line => Utf8.encode (line ++ ['\n']), Utf8.encode last) := by
  induction ended with
  | nil =>
    have hnot : lineFeed ∉ Utf8.encode last := fun h => hlast ((lineFeed_mem_encode_iff _).1 h)
    simpa [Text.join] using splitLines_of_not_mem hnot
  | cons line ended ih =>
    have hline : lineFeed ∉ Utf8.encode line := fun h =>
      hended line (by simp) ((lineFeed_mem_encode_iff _).1 h)
    have hjoin : Text.join '\n' (line :: ended ++ [last]) =
        line ++ '\n' :: Text.join '\n' (ended ++ [last]) := by
      cases ended <;> rfl
    have hnewline : Utf8.encode (line ++ ['\n']) = Utf8.encode line ++ [lineFeed] :=
      Utf8.encode_append _ _
    have hrest : ∀ line ∈ ended, '\n' ∉ line := fun x hx => hended x (by simp [hx])
    have hencode : Utf8.encode (line ++ '\n' :: Text.join '\n' (ended ++ [last])) =
        Utf8.encode line ++ lineFeed :: Utf8.encode (Text.join '\n' (ended ++ [last])) := by
      rw [Utf8.encode_append, Utf8.encode_cons]
      rfl
    rw [hjoin, hencode, splitLines_append_lineFeed hline, ih hrest, List.map_cons, hnewline]

/-- The lines of the bytes of a text. -/
theorem splitLines_encode {ended : List Text} {last t : Text}
    (h : Text.pieces '\n' t = ended ++ [last]) :
    splitLines (Utf8.encode t) =
      (ended.map fun line => Utf8.encode (line ++ ['\n']), Utf8.encode last) := by
  have hnot : ∀ piece ∈ ended ++ [last], '\n' ∉ piece := fun piece hpiece =>
    Text.sep_not_mem_of_mem_pieces (h ▸ hpiece)
  rw [← Text.join_pieces '\n' t, h]
  exact splitLines_encode_join (fun line hline => hnot line (by simp [hline])) (hnot last (by simp))

/-- Taking the end off a line. -/
theorem dropEnd_append_newline (line : Text) : dropEnd (line ++ ['\n']) = Text.chomp line := by
  simp [dropEnd, Text.chomp]

theorem dropEnd_of_not_mem {line : Text} (h : '\n' ∉ line) : dropEnd line = line := by
  rw [dropEnd, if_neg]
  exact fun hlast => h (List.mem_of_getLast? hlast)

end Console

end DeviceTwin
