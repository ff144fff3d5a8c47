import DdsBridge.Poll
import DdsBridge.Respond

/-!
# Samples and the state of their instance

A sample has data or not, and its instance is in some state when it is taken. `take_samples` keeps the state,
`sample_to_message` makes the message of it: that the sample has data is lost.
-/

namespace DdsBridge

section
variable {reader : DdsReader} {taken : TakenSample}

end

end DdsBridge
