/-!
# Identity — the names the product goes by

All names shown to a user or a host are written here and nowhere else.
-/

namespace AudioGadget.Identity

/-- The product's name. -/
def productName : String := "Soul Listener"

/-- What sort of product it is: a digital audio player. -/
def productKind : String := "DAP"

/-- The title shown to users. -/
def title : String := productName

/-- The name a host shows for the whole audio function. -/
def functionName : String := "Soul Listener USB Audio"

/-- The name a host shows for the streaming interface. -/
def streamingName : String := "Soul Listener Playback"

end AudioGadget.Identity
