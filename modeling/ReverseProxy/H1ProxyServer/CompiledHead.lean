import ReverseProxy.H1ProxyServer.FilledValues
import ReverseProxy.H1ProxyServer.ForwardedHead

/-!
# The outcome of `compile_headers`

For an accepted head the outcome is an equation: an error if a line has no colon,
otherwise the lines that are copied, the proxy's own and the configured ones,
unless a value cannot be filled in or compared.
-/

namespace ReverseProxy

open Library Rfc7230 Http1Headers Outcome

/-! ## The recorded upgrade -/

/-- What `compile_headers` makes of the last `Upgrade` value. -/
def readUpgrade : Option Bytes → Outcome Bool
  | none => .ret false
  | some value => do
    let upgradeValue ← recordedOctets value
    compareCaseInsensitive upgradeValue (ascii "websocket")

/-! ## The whole function -/

section

variable [SliceOfU8Ext] [StrUtils] [Platform] {context : CompileContext}
  {head : MessageHead} {rest : Bytes} {headers : Http1Headers}

theorem buildHead_eq (accepted : parse (head.bytes ++ rest) = .ret (some headers)) :
    buildHead context (head.bytes ++ rest) headers =
      if ∀ line ∈ head.lines, (58 : UInt8) ∈ line then do
        let added ← .unwrap (filledHeaders context head rest context.kind.modifyHeaders.addHeaders)
        return .ok (compiledBytes context head added)
      else .ret (.error (.headersParseError noColonMessage)) := by
  rw [buildHead_lines (acceptedHead_of_parse accepted).firstLineEnd, addedHeaders_eq accepted]

theorem compileHeaders_eq (accepted : parse (head.bytes ++ rest) =
      .ret (some headers)) :
    compileHeaders context (head.bytes ++ rest) headers =
      if ∀ line ∈ head.lines, (58 : UInt8) ∈ line then do
        let added ← .unwrap (filledHeaders context head rest context.kind.modifyHeaders.addHeaders)
        let webSocketUpgrade ← readUpgrade (rawValues upgradeHeader head.lines).getLast?
        return .ok { head := compiledBytes context head added, webSocketUpgrade }
      else .ret (.error (.headersParseError noColonMessage)) := by
  rw [compileHeaders, buildHead_eq accepted]
  split
  · cases filledHeaders context head rest context.kind.modifyHeaders.addHeaders with
    | none => rfl
    | some added =>
      cases last : (rawValues upgradeHeader head.lines).getLast? with
      | none =>
        rw [show headers.upgradeValue = none from
          valueOf_eq_none accepted
            (show (rawValues RangeHeader.upgrade.name
              head.lines).getLast? = none from last)]
        rfl
      | some value =>
        obtain ⟨range, recorded, sliced⟩ := slice_valueOf accepted
            (show (rawValues RangeHeader.upgrade.name
              head.lines).getLast? = some value from last)
        rw [show headers.upgradeValue = some range from recorded]
        dsimp only
        rw [sliced, readUpgrade]
        cases value with
        | nil => rfl
        | cons octet octets => rfl
  · rfl

end

end ReverseProxy
