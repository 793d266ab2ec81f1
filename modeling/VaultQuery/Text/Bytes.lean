namespace VaultQuery.Text

-- Positions in a text count the bytes of its UTF-8 form.
def byteLength : List Char → Nat
  | [] => 0
  | c :: cs => c.utf8Size + byteLength cs

-- The characters from a byte position on. A position inside a character counts as its end.
def dropBytes (n : Nat) : List Char → List Char
  | [] => []
  | c :: cs => if n = 0 then c :: cs else dropBytes (n - c.utf8Size) cs

-- The characters up to a byte position. A position inside a character counts as its end.
def takeBytes (n : Nat) : List Char → List Char
  | [] => []
  | c :: cs => if n = 0 then [] else c :: takeBytes (n - c.utf8Size) cs

def slice (s : String) (start stop : Nat) : String :=
  String.ofList (takeBytes (stop - start) (dropBytes start s.toList))

theorem byteLength_append (cs ds : List Char) :
    byteLength (cs ++ ds) = byteLength cs + byteLength ds := by
  induction cs with
  | nil => simp [byteLength]
  | cons c cs ih => simp [byteLength, ih, Nat.add_assoc]

theorem utf8ByteSize_ofList (cs : List Char) : (String.ofList cs).utf8ByteSize = byteLength cs := by
  induction cs with
  | nil => rfl
  | cons c cs ih =>
      have hs : String.ofList (c :: cs) = String.singleton c ++ String.ofList cs := by
        rw [← String.toList_inj]; simp
      rw [hs, String.utf8ByteSize_append, ih]
      simp [byteLength]

theorem byteLength_toList (s : String) : byteLength s.toList = s.utf8ByteSize := by
  rw [← utf8ByteSize_ofList, String.ofList_toList]

theorem dropBytes_append (cs ds : List Char) : dropBytes (byteLength cs) (cs ++ ds) = ds := by
  induction cs with
  | nil => cases ds <;> simp [byteLength, dropBytes]
  | cons c cs ih =>
      have hc := Char.utf8Size_pos c
      have hn : byteLength (c :: cs) - c.utf8Size = byteLength cs := by simp [byteLength]
      simp only [List.cons_append, dropBytes, hn, ih]
      rw [if_neg (by simp only [byteLength]; omega)]

theorem takeBytes_append (cs ds : List Char) : takeBytes (byteLength cs) (cs ++ ds) = cs := by
  induction cs with
  | nil => cases ds <;> simp [byteLength, takeBytes]
  | cons c cs ih =>
      have hc := Char.utf8Size_pos c
      have hn : byteLength (c :: cs) - c.utf8Size = byteLength cs := by simp [byteLength]
      simp only [List.cons_append, takeBytes, hn, ih]
      rw [if_neg (by simp only [byteLength]; omega)]

end VaultQuery.Text
