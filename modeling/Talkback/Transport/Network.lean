import Talkback.Error

/-!
The network as the library's hosts see it: a loopback interface that is down and no route
anywhere else, so every connection attempt fails with the network's error before any byte is
exchanged.
-/

namespace Talkback.Transport

/-- The outcome of dialing `address`: no peer can be reached. -/
def dial (_address : String) : Except IoError Unit := .error IoError.unreachable

end Talkback.Transport
