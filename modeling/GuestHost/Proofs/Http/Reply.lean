import GuestHost.Files.Server
import GuestHost.Proofs.Text.Words

/-!
# Replies as servers write them

A reply of status 200 is a head and a body. The head is a status line and header fields, a line each,
and an empty line. The body carries a payload in one of three ways: behind a header field that announces
its length, cut into chunks that each start with their size, or up to the end of the connection.

This says how a reply is written, without regard to how it is read. Fields may stand in any order, names
may be in either letter case, and fields of other names may hold anything that fits on a line. Sizes are
hexadecimal numerals in either letter case, which may start with zeros and be followed by an extension.
-/

namespace GuestHost.Http

open Utf8 (encode IsAscii)

/-- The end of a line. -/
def lineEnd : Bytes := [13, 10]

/-! ## Heads -/

/-- A header field: a name in visible ASCII characters, and what stands between the colon and the end of
the line. -/
structure Field where
  name : List Char
  value : Bytes
  name_ne_nil : name ≠ []
  name_visible : ∀ c ∈ name, 32 < c.toNat ∧ c.toNat < 127 ∧ c ≠ ':'
  value_one_line : (10 : UInt8) ∉ value

namespace Field

/-- A field as a line without its end. -/
def bytes (f : Field) : Bytes := encode f.name ++ 58 :: f.value

/-- Whether a field has a name, in either letter case; `name` is in lower case. -/
def IsNamed (f : Field) (name : String) : Prop := f.name.map Char.toLower = name.toList

instance (f : Field) (name : String) : Decidable (f.IsNamed name) :=
  inferInstanceAs (Decidable (_ = _))

/-- The name of fields that announce the length of a payload. -/
def lengthName : String := "content-length"

/-- The name of fields that say how a payload is coded. -/
def codingName : String := "transfer-encoding"

/-- The value is a decimal numeral with spaces and tabs around it. -/
def AnnouncesLength (f : Field) (n : Nat) : Prop :=
  ∃ before digits after, f.value = encode (before ++ digits ++ after) ∧
    (∀ c ∈ before, c = ' ' ∨ c = '\t') ∧ Numeral 10 digits n ∧ ∀ c ∈ after, c = ' ' ∨ c = '\t'

/-- The value is in ASCII and has the word for chunks in it, in either letter case. -/
def AnnouncesChunks (f : Field) : Prop :=
  ∃ before word after, f.value = encode (before ++ word ++ after) ∧
    IsAscii (before ++ word ++ after) ∧ word.map Char.toLower = "chunked".toList

end Field

/-- A head of status 200: a version, what follows the code on the status line, and header fields. -/
structure Head where
  version : List Char
  reason : Bytes
  fields : List Field
  version_visible : ∀ c ∈ version, 32 < c.toNat ∧ c.toNat < 127
  reason_one_line : (10 : UInt8) ∉ reason
  /-- A space follows the code, if anything does. -/
  reason_apart : ∀ b ∈ reason.head?, b = 32

namespace Head

/-- A status line up to its code. -/
def opening (h : Head) : Bytes := encode ("HTTP/".toList ++ h.version ++ " 200".toList)

/-- A status line without its end. -/
def statusLine (h : Head) : Bytes := h.opening ++ h.reason

/-- Fields as lines. -/
def fieldLines (fs : List Field) : Bytes := fs.flatMap fun f => f.bytes ++ lineEnd

/-- The bytes of a head, with the empty line. -/
def bytes (h : Head) : Bytes := h.statusLine ++ lineEnd ++ fieldLines h.fields ++ lineEnd

/-- The words on the status line and the values of all fields are UTF-8. -/
def IsText (h : Head) : Prop :=
  (Utf8.text? h.reason).isSome ∧ ∀ f ∈ h.fields, (Utf8.text? f.value).isSome

end Head

/-! ## Bodies -/

/-- A line that starts a chunk of `n` bytes, or ends the chunks if `n` is zero: a hexadecimal numeral,
and an extension behind a semicolon if there is one. -/
structure SizeLine (n : Nat) where
  digits : List Char
  extension : List Char
  digits_denote : Numeral 16 digits n
  extension_apart : ∀ c ∈ extension.head?, c = ';'
  extension_ascii : IsAscii extension
  extension_one_line : '\n' ∉ extension

/-- The bytes of a line that starts a chunk. -/
def SizeLine.bytes {n : Nat} (l : SizeLine n) : Bytes :=
  encode l.digits ++ encode l.extension ++ lineEnd

/-- A chunk of at least one byte. -/
structure Chunk where
  payload : Bytes
  payload_ne_nil : payload ≠ []
  size : SizeLine payload.length

/-- The bytes of a chunk. -/
def Chunk.bytes (c : Chunk) : Bytes := c.size.bytes ++ c.payload ++ lineEnd

/-- Chunks as bytes. -/
def chunkBytes (cs : List Chunk) : Bytes := cs.flatMap Chunk.bytes

/-- What chunks carry. -/
def chunkPayload (cs : List Chunk) : Bytes := cs.flatMap Chunk.payload

/-- A body, as the way in which it carries a payload. -/
inductive Body
  /-- The payload, and anything behind it. -/
  | sized (payload trailing : Bytes)
  /-- Chunks, a size line of zero, and anything behind it. -/
  | chunked (chunks : List Chunk) (last : SizeLine 0) (trailing : Bytes)
  /-- The payload up to the end of the connection. -/
  | toEnd (payload : Bytes)

namespace Body

/-- What a body carries. -/
def payload : Body → Bytes
  | .sized payload _ => payload
  | .chunked chunks _ _ => chunkPayload chunks
  | .toEnd payload => payload

/-- The bytes of a body. -/
def bytes : Body → Bytes
  | .sized payload trailing => payload ++ trailing
  | .chunked chunks last trailing => chunkBytes chunks ++ last.bytes ++ trailing
  | .toEnd payload => payload

end Body

/-! ## Replies -/

/-- A head announces the way in which a body carries its payload. Chunks may be announced beside any
lengths; a length only if there is no other, and no other coding. -/
def Head.Announces (h : Head) : Body → Prop
  | .sized payload _ =>
    (∃ f ∈ h.fields, f.IsNamed Field.lengthName) ∧
    (∀ f ∈ h.fields, f.IsNamed Field.lengthName → f.AnnouncesLength payload.length) ∧
    ∀ f ∈ h.fields, ¬ f.IsNamed Field.codingName
  | .chunked _ _ _ => ∃ f ∈ h.fields, f.IsNamed Field.codingName ∧ f.AnnouncesChunks
  | .toEnd _ => ∀ f ∈ h.fields, ¬ f.IsNamed Field.lengthName ∧ ¬ f.IsNamed Field.codingName

/-- A reply of status 200. -/
structure Reply where
  head : Head
  body : Body
  announced : head.Announces body

/-- The bytes of a reply. -/
def Reply.bytes (r : Reply) : Bytes := r.head.bytes ++ r.body.bytes

/-- What a reply carries. -/
def Reply.payload (r : Reply) : Bytes := r.body.payload

end GuestHost.Http

namespace GuestHost.Server

/-- A server sends these bytes, and nothing more, in answer to a request for a path. -/
def Sends (s : Server) (path : String) (bytes : Bytes) : Prop :=
  ∃ url request, s.resolve path = .ok url ∧ Server.request .get url = .ok request ∧
    s.network request = some bytes

/-- A server that answers every request with the same bytes. -/
def answering (bytes : Bytes) : Server :=
  ⟨⟨"http", "", "", some "h", none, .segments ["a"], none, none⟩, fun _ => some bytes⟩

theorem answering_sends (bytes : Bytes) : (answering bytes).Sends "" bytes :=
  ⟨(answering bytes).base, _, rfl, rfl, rfl⟩

variable {s : Server} {path : String} {bytes : Bytes}

/-- A fetch reads what the server sends as a response, and only status 200 counts. -/
theorem fetch_eq (h : s.Sends path bytes) :
    s.fetch path = (Http.readResponse .get bytes).bind fun response =>
      if response.status = 200 then .ok response.body else .error (.status response.status path) := by
  obtain ⟨url, request, hresolve, hrequest, hnetwork⟩ := h
  have hexchange : s.exchange .get url = Http.readResponse .get bytes := by
    simp only [exchange, hrequest, hnetwork, bind, Except.bind]
  have hfetch : s.fetch path = (s.exchange .get url).bind fun response =>
      if response.status = 200 then .ok response.body
      else .error (.status response.status path) := by
    simp only [fetch, hresolve]
    rfl
  rw [hfetch, hexchange]

end GuestHost.Server
