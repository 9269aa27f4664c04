import Calculator.Proofs.BatchRuns
namespace Calculator

namespace Settings

end Settings

end Calculator
