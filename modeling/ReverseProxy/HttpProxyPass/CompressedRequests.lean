import ReverseProxy.HttpProxyPass.ProcessHeaders
import ReverseProxy.Rfc7230.Fields
import ReverseProxy.Rfc7230.ListElements

/-!
# Compressed requests

On a location with `compress`, `build_request` packs a body of 2048 octets or
more with gzip and says so in the place of the client's `Content-Encoding`.
-/

namespace ReverseProxy

open Rfc7230 Conversion

/-- Content codings by their lower-case names.  `GzEncoder` writes what the
coding `gzip` undoes. -/
class ContentCodings where
  gzEncoder : Bytes → Bytes
  decode : Bytes → Bytes → Option Bytes
  decode_gzEncoder : ∀ body, decode (ascii "gzip") (gzEncoder body) = some body

export ContentCodings (gzEncoder decode decode_gzEncoder)

/-- The path of an MCP location, if it is one and parses, takes the place of the
client's. -/
def rewriteMcpPath (mcpPath : Option (Str × Option Str)) (parts : Parts) : Parts :=
  match mcpPath with
  | some (path, query) => { parts with path, query }
  | none => parts

theorem getAll_convert_of_dropped (parts : Parts) {conversion : Conversion} {name : Str}
    (dropped : name ∈ conversion.dropped) :
    (parts.convert conversion).getAll name =
      ((conversion.leading ++ conversion.trailing).filter (·.1 = name)).map (·.2) := by
  have carried :=
    Parts.filter_named (fun own => decide (own ∉ conversion.dropped)) parts.headers name
  rw [if_neg (by simpa using dropped)] at carried
  rw [Parts.getAll, Parts.convert, Conversion.headers, List.filter_append, List.filter_append,
    carried, List.append_nil, ← List.filter_append]

/-- The client's message and the one sent are pairs of a head and a body. -/
abbrev Message := Parts × Bytes

def Message.StatesLength (message : Message) : Prop :=
  ∀ value ∈ message.1.getAll "content-length".toList,
    contentLengthNumber value = some message.2.length

variable [ContentCodings]

def buildRequest (compress : Bool) (mcpPath : Option (Str × Option Str)) (message : Message) :
    Message :=
  let parts := rewriteMcpPath mcpPath message.1
  if compress && 2048 ≤ message.2.length then
    let body := gzEncoder message.2
    (parts.convert (.compressed body.length), body)
  else
    (parts, message.2)

/-- The body with all codings of the head undone, the last one first. -/
def Message.decoded (message : Message) : Option Bytes :=
  (listElements (message.1.getAll "content-encoding".toList)).foldr
    (fun coding body => body.bind (decode (coding.map toLowerCase))) (some message.2)

structure PreservesMessage (received sent : Message) : Prop where
  content : sent.decoded = received.decoded
  length : sent.StatesLength

/-- A body that is packed has to decode to itself by the client's codings; one
that is not has to have the length the client states. -/
theorem buildRequest_preserves_iff (compress : Bool) (mcpPath : Option (Str × Option Str))
    (message : Message) :
    PreservesMessage message (buildRequest compress mcpPath message) ↔
      if compress ∧ 2048 ≤ message.2.length then message.decoded = some message.2
      else message.StatesLength := by
  by_cases packed : compress ∧ 2048 ≤ message.2.length
  · have sent : buildRequest compress mcpPath message =
        ((rewriteMcpPath mcpPath message.1).convert (.compressed (gzEncoder message.2).length),
          gzEncoder message.2) := by
      simp [buildRequest, packed]
    have decoded : (buildRequest compress mcpPath message).decoded = some message.2 := by
      rw [sent, Message.decoded, getAll_convert_of_dropped _ (by simp [dropped])]
      exact decode_gzEncoder message.2
    rw [if_pos packed]
    constructor
    · intro preserves
      rw [← preserves.content, decoded]
    · intro itself
      refine ⟨decoded.trans itself.symm, fun value member => ?_⟩
      rw [sent, getAll_convert_of_dropped _ (by simp [dropped])] at member
      have only : value = ascii (toString (gzEncoder message.2).length) := by
        simpa [leading, trailing] using member
      rw [only, sent]
      exact contentLengthNumber_toString _
  · have sent : buildRequest compress mcpPath message =
        (rewriteMcpPath mcpPath message.1, message.2) := by
      simp [buildRequest, packed]
    have same : ∀ name, (rewriteMcpPath mcpPath message.1).getAll name = message.1.getAll name := by
      intro name
      cases mcpPath <;> rfl
    rw [if_neg packed, sent]
    constructor
    · intro preserves
      simpa [Message.StatesLength, same] using preserves.length
    · intro states
      exact ⟨by simp [Message.decoded, same], by simpa [Message.StatesLength, same] using states⟩

omit [ContentCodings] in
/-- A body that came packed is packed once more, and one coding is named for
both; here gzip only puts a mark before the body. -/
theorem packed_body_packed_again :
    let _ : ContentCodings :=
      { gzEncoder := fun body => 31 :: body
        decode := fun _ data => data.tail?
        decode_gzEncoder := fun _ => rfl }
    let message : Message :=
      ({ method := [], path := [], headers := [("content-encoding".toList, ascii "gzip")] },
        List.replicate 2049 31)
    message.decoded = some (List.replicate 2048 31) ∧
      (buildRequest true none message).decoded = some (List.replicate 2049 31) := by
  decide +kernel

end ReverseProxy
