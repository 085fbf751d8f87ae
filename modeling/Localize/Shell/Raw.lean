import Localize.Text.Encoding

/-! A shell handles bytes, not characters. Its texts have one character, below 256, for each byte.
-/

namespace Localize.Shell.Raw

def ofBytes (bytes : ByteArray) : Text := bytes.toList.map fun b => Char.ofNat b.toNat

def toBytes (t : Text) : ByteArray := ⟨(t.map fun c => c.toNat.toUInt8).toArray⟩

def ofText (t : Text) : Text := ofBytes (Text.encode t)

def toText (t : Text) : Text := Text.decodeLossy (toBytes t)

end Localize.Shell.Raw
