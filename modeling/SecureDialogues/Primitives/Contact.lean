import SecureDialogues.Lib.Text

/-!
# Contacts

`messages/src/primitives/contact.h` and `discoveredcontact.h`.
-/

namespace SecureDialogues

open Text

/-- `Contact` (`contact.h:53-58`). -/
structure Contact where
  channelMoniker : Str
  name : Str
  adress : Str
  id : Str
  publicKey : Str
  deriving DecidableEq, Repr

/-- `DiscoveredContact` (`discoveredcontact.h:37-43`), the contact data of a stranger. The time of
creation is in nanoseconds. -/
structure DiscoveredContact where
  created : Int
  channelMoniker : Str
  contactAdress : Str
  publicKey : Str
  name : Str
  dialogId : Str
  deriving DecidableEq, Repr

end SecureDialogues
