import MarkdownLint.Text.Utf8

/-!
The bytes of a text: they decode to it, and the bytes of two texts one after the other are those of
the first and then those of the second.
-/
namespace MarkdownLint.Text

theorem decode_toUTF8 (s : String) : decode s.toUTF8 = .ok s := by
  have hvalid : String.fromUTF8? s.toUTF8 = some s := dif_pos s.isValidUTF8
  rw [decode, hvalid]

/-- What is left of the bytes goes behind those that were read. -/
theorem toList_loop_eq (bs : ByteArray) (i : Nat) (read : List UInt8) :
    ByteArray.toList.loop bs i read = read.reverse ++ bs.data.toList.drop i := by
  rw [ByteArray.toList.loop]
  by_cases hi : i < bs.size
  · have hlength : i < bs.data.toList.length := by simpa using hi
    have hget : bs.get! i = bs.data.toList[i] := by
      rw [ByteArray.get!, getElem!_pos bs.data i (by simpa using hi)]
      rfl
    rw [if_pos hi, toList_loop_eq bs (i + 1), List.drop_eq_getElem_cons hlength, hget]
    simp
  · have hdrop : bs.data.toList.drop i = [] := List.drop_eq_nil_of_le (by simpa using hi)
    rw [if_neg hi, hdrop, List.append_nil]
termination_by bs.size - i

theorem toList_eq_data (bs : ByteArray) : bs.toList = bs.data.toList := by
  show ByteArray.toList.loop bs 0 [] = bs.data.toList
  rw [toList_loop_eq]
  rfl

theorem toUTF8_append (s t : String) :
    (s ++ t).toUTF8.toList = s.toUTF8.toList ++ t.toUTF8.toList := by
  simp only [toList_eq_data, String.toUTF8_eq_toByteArray, String.toByteArray_append,
    ByteArray.toList_data_append]

end MarkdownLint.Text
