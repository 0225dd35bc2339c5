import Chaining.KnowledgeBase

set_option autoImplicit false

namespace Chaining.Advisor

def facts : List (String × Value) :=
  [("task_type", .text "work"),
    ("budget_rub", .ofInt 165000),
    ("required_performance", .text "high"),
    ("integrated_graphics_needed", .boolean false),
    ("power_efficiency_important", .boolean false),
    ("needs_multithreading", .boolean true)]

def rules : List Rule :=
  [⟨"Budget for entry level", 2,
      [⟨"required_category", .equal, .text "gaming_entry"⟩,
        ⟨"budget_rub", .atLeast, .ofInt 15000⟩,
        ⟨"budget_rub", .atMost, .ofInt 30000⟩],
      [⟨"budget_sufficient", .boolean true⟩]⟩,
    ⟨"Budget for mid level", 2,
      [⟨"required_category", .equal, .text "gaming_mid"⟩,
        ⟨"budget_rub", .atLeast, .ofInt 25000⟩,
        ⟨"budget_rub", .atMost, .ofInt 60000⟩],
      [⟨"budget_sufficient", .boolean true⟩]⟩,
    ⟨"Budget for top level", 2,
      [⟨"required_category", .equal, .text "gaming_top"⟩,
        ⟨"budget_rub", .atLeast, .ofInt 50000⟩],
      [⟨"budget_sufficient", .boolean true⟩]⟩,
    ⟨"Entry-level gaming", 2,
      [⟨"task_type", .equal, .text "gaming"⟩,
        ⟨"required_performance", .equal, .text "minimal"⟩],
      [⟨"required_category", .text "gaming_entry"⟩,
        ⟨"task_defined", .boolean true⟩]⟩,
    ⟨"Mid-level gaming", 2,
      [⟨"task_type", .equal, .text "gaming"⟩,
        ⟨"required_performance", .equal, .text "medium"⟩,
        ⟨"budget_rub", .atLeast, .ofInt 25000⟩],
      [⟨"required_category", .text "gaming_mid"⟩,
        ⟨"task_defined", .boolean true⟩]⟩,
    ⟨"Competitive gaming", 2,
      [⟨"task_type", .equal, .text "gaming"⟩,
        ⟨"required_performance", .equal, .text "high"⟩,
        ⟨"budget_rub", .atLeast, .ofInt 50000⟩],
      [⟨"required_category", .text "gaming_top"⟩,
        ⟨"task_defined", .boolean true⟩]⟩,
    ⟨"Office work", 2,
      [⟨"task_type", .equal, .text "work"⟩,
        ⟨"required_performance", .equal, .text "minimal"⟩],
      [⟨"required_category", .text "office"⟩,
        ⟨"task_defined", .boolean true⟩]⟩,
    ⟨"Programming and design", 3,
      [⟨"task_type", .equal, .text "work"⟩,
        ⟨"required_performance", .equal, .text "medium"⟩,
        ⟨"needs_multithreading", .equal, .boolean true⟩],
      [⟨"required_category", .text "workstation"⟩,
        ⟨"task_defined", .boolean true⟩]⟩,
    ⟨"Rendering and simulation", 3,
      [⟨"task_type", .equal, .text "work"⟩,
        ⟨"required_performance", .equal, .text "high"⟩,
        ⟨"needs_multithreading", .equal, .boolean true⟩],
      [⟨"required_category", .text "professional"⟩,
        ⟨"task_defined", .boolean true⟩]⟩,
    ⟨"Budget too small", 1,
      [⟨"required_category", .among, .list [.text "gaming_top", .text "professional"]⟩,
        ⟨"budget_rub", .less, .ofInt 40000⟩],
      [⟨"budget_sufficient", .boolean false⟩]⟩,
    ⟨"Budget fits", 1,
      [⟨"required_category", .equal, .text "gaming_entry"⟩,
        ⟨"budget_rub", .atLeast, .ofInt 15000⟩],
      [⟨"budget_sufficient", .boolean true⟩]⟩,
    ⟨"Recommend Ryzen 5 for gaming", 3,
      [⟨"required_category", .equal, .text "gaming_entry"⟩,
        ⟨"budget_sufficient", .equal, .boolean true⟩,
        ⟨"power_efficiency_important", .equal, .boolean true⟩],
      [⟨"cpu_recommendation", .text "AMD Ryzen 5 7600"⟩,
        ⟨"budget_ok", .boolean true⟩]⟩,
    ⟨"Recommend Core i3 for entry level", 3,
      [⟨"required_category", .equal, .text "gaming_entry"⟩,
        ⟨"budget_sufficient", .equal, .boolean true⟩,
        ⟨"integrated_graphics_needed", .equal, .boolean true⟩],
      [⟨"cpu_recommendation", .text "Intel Core i3-12100"⟩,
        ⟨"budget_ok", .boolean true⟩]⟩,
    ⟨"Recommend Core i5 for mid-level gaming", 4,
      [⟨"required_category", .equal, .text "gaming_mid"⟩,
        ⟨"budget_sufficient", .equal, .boolean true⟩,
        ⟨"socket", .equal, .text "LGA1700"⟩],
      [⟨"cpu_recommendation", .text "Intel Core i5-13400F"⟩,
        ⟨"budget_ok", .boolean true⟩]⟩,
    ⟨"Recommend Ryzen 5 for AM5", 4,
      [⟨"required_category", .equal, .text "gaming_mid"⟩,
        ⟨"budget_sufficient", .equal, .boolean true⟩,
        ⟨"socket", .equal, .text "AM5"⟩],
      [⟨"cpu_recommendation", .text "AMD Ryzen 5 7600X"⟩,
        ⟨"budget_ok", .boolean true⟩]⟩,
    ⟨"Recommend Core i7 for demanding games", 5,
      [⟨"required_category", .equal, .text "gaming_top"⟩,
        ⟨"budget_sufficient", .equal, .boolean true⟩],
      [⟨"cpu_recommendation", .text "Intel Core i7-14700K"⟩,
        ⟨"budget_ok", .boolean true⟩]⟩,
    ⟨"Recommend Pentium Gold for office", 2,
      [⟨"required_category", .equal, .text "office"⟩,
        ⟨"integrated_graphics_needed", .equal, .boolean true⟩],
      [⟨"cpu_recommendation", .text "Intel Pentium Gold G7400"⟩,
        ⟨"budget_ok", .boolean true⟩]⟩,
    ⟨"Recommend Ryzen 7 for work", 4,
      [⟨"required_category", .equal, .text "workstation"⟩,
        ⟨"needs_multithreading", .equal, .boolean true⟩],
      [⟨"cpu_recommendation", .text "AMD Ryzen 7 9700X"⟩,
        ⟨"budget_ok", .boolean true⟩]⟩,
    ⟨"Recommend Threadripper", 5,
      [⟨"required_category", .equal, .text "professional"⟩,
        ⟨"budget_rub", .atLeast, .ofInt 100000⟩],
      [⟨"cpu_recommendation", .text "AMD Ryzen Threadripper 9960X"⟩,
        ⟨"budget_ok", .boolean true⟩]⟩,
    ⟨"Recommend Apple M4", 3,
      [⟨"task_type", .equal, .text "work"⟩,
        ⟨"power_efficiency_important", .equal, .boolean true⟩,
        ⟨"required_performance", .equal, .text "high"⟩],
      [⟨"cpu_recommendation", .text "Apple M4 Pro"⟩,
        ⟨"budget_ok", .boolean true⟩]⟩]

def knowledgeBase : KnowledgeBase where
  name := "cpu-advisor"
  strategy := some "HIGHEST_PRIORITY"
  facts := .ofList facts
  goals := ["cpu_recommendation", "budget_ok"]
  rules := rules

/-- The goal that the walkthrough checks backward. -/
def recommendation : String := "cpu_recommendation"

end Chaining.Advisor
