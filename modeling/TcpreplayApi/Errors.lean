import TcpreplayApi.Interface
import TcpreplayApi.Replay

/-! The calls that return -1, and what they have written by then. -/
namespace TcpreplayApi

section
variable {B : Build} {D : DriverModel} {ctx0 : Tcpreplay}

end

end TcpreplayApi
