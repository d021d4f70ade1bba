import DurableStore.Bytes

/-!
The content of a file, in which stretches of zeros that nobody wrote take no room.

`Content.toBytes` says which bytes a content stands for.  Every operation does to them what the
operation of the same name on bytes does (`toBytes_append`, `toBytes_resize`, `toBytes_overwrite`,
`slice?_eq`).
-/

namespace DurableStore

/-- The content of a file, from its first byte on. -/
inductive Content where
  | empty
  /-- Bytes that were written. -/
  | bytes (front : Bytes) (rest : Content)
  /-- Zeros that were not written. -/
  | hole (count : Nat) (rest : Content)
  deriving DecidableEq, Inhabited, Repr

namespace Content

/-- The bytes that a content stands for. -/
def toBytes : Content → Bytes
  | empty => []
  | bytes front rest => front ++ rest.toBytes
  | hole count rest => List.replicate count 0 ++ rest.toBytes

/-- The content that consists of given bytes. -/
def ofBytes (front : Bytes) : Content :=
  bytes front empty

/-- How many bytes there are. -/
def length : Content → Nat
  | empty => 0
  | bytes front rest => front.length + rest.length
  | hole count rest => count + rest.length

/-- The first bytes. -/
def take : Content → Nat → Content
  | _, 0 => empty
  | empty, _ => empty
  | bytes front rest, count =>
    let taken := front.take count
    bytes taken (rest.take (count - taken.length))
  | hole zeros rest, count => hole (min count zeros) (rest.take (count - zeros))

/-- All but the first bytes. -/
def drop : Content → Nat → Content
  | content, 0 => content
  | empty, _ => empty
  | bytes front rest, count =>
    match front.drop count with
    | [] => rest.drop (count - (front.take count).length)
    | left => bytes left rest
  | hole zeros rest, count =>
    if zeros ≤ count then rest.drop (count - zeros) else hole (zeros - count) rest

/-- One content behind the other. -/
def join : Content → Content → Content
  | empty, other => other
  | bytes front rest, other => bytes front (rest.join other)
  | hole count rest, other => hole count (rest.join other)

/-- With bytes behind the last one. -/
def append (content : Content) (added : Bytes) : Content :=
  content.join (ofBytes added)

/-- Cut off or filled up with zeros to a length. -/
def resize (content : Content) (length : Nat) : Content :=
  if length ≤ content.length then content.take length
  else content.join (hole (length - content.length) empty)

/-- With `patch` written over the bytes from `offset` on; a gap before `offset` is zeros. -/
def overwrite (content : Content) (offset : Nat) (patch : Bytes) : Content :=
  ((content.resize offset).append patch).join (content.drop (offset + patch.length))

/-- The bytes from `start` up to `stop`, or `none` if the range does not fit. -/
def slice? (content : Content) (start stop : Nat) : Option Bytes :=
  if start ≤ stop ∧ stop ≤ content.length then
    some ((content.drop start).take (stop - start)).toBytes
  else none

/-! ## What the operations do to the bytes -/

@[simp] theorem toBytes_empty : empty.toBytes = [] := rfl

@[simp] theorem toBytes_ofBytes (front : Bytes) : (ofBytes front).toBytes = front := by
  simp [ofBytes, toBytes]

@[simp] theorem length_toBytes (content : Content) : content.toBytes.length = content.length := by
  induction content with
  | empty => rfl
  | bytes front rest ih => simp [toBytes, length, ih]
  | hole count rest ih => simp [toBytes, length, ih]

@[simp] theorem toBytes_take (content : Content) (count : Nat) :
    (content.take count).toBytes = content.toBytes.take count := by
  fun_induction take content count with
  | case1 => simp [toBytes]
  | case2 => simp [toBytes]
  | case3 front rest count _ taken ih =>
    have rest_count : count - taken.length = count - front.length := by
      simp only [taken, List.length_take]
      omega
    rw [rest_count] at ih ⊢
    simp [toBytes, ih, taken, List.take_append]
  | case4 _ _ _ _ ih => simp [toBytes, ih, List.take_append, List.take_replicate]

@[simp] theorem toBytes_drop (content : Content) (count : Nat) :
    (content.drop count).toBytes = content.toBytes.drop count := by
  fun_induction drop content count with
  | case1 => simp
  | case2 => simp [toBytes]
  | case3 front rest count _ none_left ih =>
    have rest_count : count - (front.take count).length = count - front.length := by
      rw [List.length_take]
      omega
    rw [rest_count] at ih ⊢
    simp [toBytes, ih, none_left, List.drop_append]
  | case4 front rest count _ some_left =>
    have short : count < front.length :=
      Nat.lt_of_not_le fun long => some_left (List.drop_eq_nil_of_le long)
    simp [toBytes, List.drop_append, Nat.sub_eq_zero_of_le (Nat.le_of_lt short)]
  | case5 zeros rest count _ long ih => simp [toBytes, ih, List.drop_append, long]
  | case6 zeros rest count _ short =>
    have : count - zeros = 0 := by omega
    simp [toBytes, List.drop_append, this]

@[simp] theorem toBytes_join (content other : Content) :
    (content.join other).toBytes = content.toBytes ++ other.toBytes := by
  induction content with
  | empty => rfl
  | bytes front rest ih => simp [join, toBytes, ih]
  | hole count rest ih => simp [join, toBytes, ih]

@[simp] theorem toBytes_append (content : Content) (added : Bytes) :
    (content.append added).toBytes = content.toBytes ++ added := by
  simp [append]

@[simp] theorem toBytes_resize (content : Content) (length : Nat) :
    (content.resize length).toBytes = content.toBytes.resize length := by
  unfold resize Bytes.resize
  split
  next fits =>
    have : length - min length content.length = 0 := by omega
    simp [this]
  next exceeds =>
    have whole : content.toBytes.take length = content.toBytes :=
      List.take_of_length_le (by rw [length_toBytes]; omega)
    simp [whole, toBytes]

@[simp] theorem toBytes_overwrite (content : Content) (offset : Nat) (patch : Bytes) :
    (content.overwrite offset patch).toBytes = content.toBytes.overwrite offset patch := by
  simp [overwrite, Bytes.overwrite, Bytes.resize]

theorem slice?_eq (content : Content) (start stop : Nat) :
    content.slice? start stop = content.toBytes.slice? start stop := by
  simp [slice?, Bytes.slice?]

end Content

end DurableStore
